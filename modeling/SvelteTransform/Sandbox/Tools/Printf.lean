import SvelteTransform.Sandbox.Fixed
import SvelteTransform.Sandbox.Calendar
import SvelteTransform.Sandbox.Escaped

/-! Formatted output: escapes, conversions, and a format that is used again as long as arguments
are left. -/
namespace SvelteTransform.Sandbox.Tools.Printf

inductive Style where
  | plain
  | larger
  | apart
  deriving DecidableEq

structure Manner where
  style : Style := .plain
  quotes : Octets → Octets := id
  now : Int := 0

def isOctal (c : Char) : Bool := Escaped.isOctal c

def escape (rest : Octets) : Octets × Octets :=
  match rest with
  | 'a' :: rest => (['\x07'], rest)
  | 'b' :: rest => (['\x08'], rest)
  | 'e' :: rest => (['\x1b'], rest)
  | 'f' :: rest => (['\x0c'], rest)
  | 'n' :: rest => (['\n'], rest)
  | 'r' :: rest => (['\r'], rest)
  | 't' :: rest => (['\t'], rest)
  | 'v' :: rest => (['\x0b'], rest)
  | '\\' :: rest => (['\\'], rest)
  | rest =>
    let digits := (rest.take 3).takeWhile isOctal
    if digits = [] then (['\\'], rest)
    else ([Octets.byte (Numeral.valueOf 8 digits)], rest.drop digits.length)

def unescaped : (fuel : Nat) → Octets → Octets × Bool
  | fuel + 1, '\\' :: rest =>
    match rest with
    | 'c' :: _ => ([], false)
    | rest =>
      let rest := match rest with
        | '0' :: d :: more => if isOctal d then d :: more else rest
        | rest => rest
      let (octets, rest) := escape rest
      let (more, goesOn) := unescaped fuel rest
      (octets ++ more, goesOn)
  | fuel + 1, c :: rest =>
    let (more, goesOn) := unescaped fuel rest
    (c :: more, goesOn)
  | _, _ => ([], true)

structure Layout where
  flags : Octets
  width : Nat
  precision : Option Nat

def Layout.has (l : Layout) (flag : Char) : Bool := l.flags.contains flag

def pad (layout : Layout) (text : Octets) : Octets :=
  let gap := layout.width - text.length
  if layout.has '-' then text ++ List.replicate gap ' ' else List.replicate gap ' ' ++ text

def padDigits (layout : Layout) (fills : Bool) (sign digits : Octets) : Octets :=
  if fills && layout.has '0' && !layout.has '-' then
    sign ++ List.replicate (layout.width - sign.length - digits.length) '0' ++ digits
  else pad layout (sign ++ digits)

def signOf (layout : Layout) (negative : Bool) : Octets :=
  if negative then ['-'] else if layout.has '+' then ['+'] else if layout.has ' ' then [' '] else []

def wholeDigits (layout : Layout) (base n : Nat) : Octets :=
  let digits := if n = 0 && layout.precision = some 0 then [] else Nat.toDigits base n
  List.replicate (layout.precision.getD 1 - digits.length) '0' ++ digits

def signed (layout : Layout) (n : Int) : Octets :=
  padDigits layout layout.precision.isNone (signOf layout (n < 0)) (wholeDigits layout 10 n.natAbs)

def unsigned (layout : Layout) (c : Char) (n : Nat) : Octets :=
  let base := if c = 'u' then 10 else if c = 'o' then 8 else 16
  let digits := wholeDigits layout base n
  let digits := if c = 'o' && layout.has '#' && digits.head? != some '0' then '0' :: digits
    else digits
  let sign := if layout.has '#' && base = 16 && n != 0 then ['0', 'x'] else []
  let text := padDigits layout layout.precision.isNone sign digits
  if c = 'X' then text.map Char.toUpper else text

inductive Fault where
  | noNumber (argument : Octets)
  | partly (argument : Octets)
  | outOfRange (argument : Octets)
  | noDigit (letter : Char)
  deriving DecidableEq

def Fault.message (style : Style) (f : Fault) : Octets :=
  let range := ": Numerical result out of range"
  let inMarks (text : Octets) : Octets := '\'' :: text ++ ['\'']
  match style, f with
  | _, .noDigit c =>
    Octets.say (if c = 'x' then "missing hex digit for \\" else "missing unicode digit for \\") ++ [c]
  | .plain, .noNumber a => a ++ Octets.say ": expected numeric value"
  | .plain, .partly a => a ++ Octets.say ": not completely converted"
  | .plain, .outOfRange a => a ++ Octets.say range
  | .larger, .noNumber a | .larger, .partly a => a ++ Octets.say ": invalid number"
  | .larger, .outOfRange a => Octets.say "warning: " ++ a ++ Octets.say range
  | .apart, .noNumber a => inMarks a ++ Octets.say ": expected a numeric value"
  | .apart, .partly a => inMarks a ++ Octets.say ": value not completely converted"
  | .apart, .outOfRange a => inMarks a ++ Octets.say range

structure Heard (α : Type) where
  value : α
  fault : Option Fault := none

def fault (argument rest : Octets) : Option Fault :=
  if rest = [] then none
  else if rest.length = argument.length then some (.noNumber argument)
  else some (.partly argument)

def whole (signed : Bool) (argument : Octets) : Heard Int :=
  match argument with
  | [] => ⟨0, none⟩
  | '"' :: rest | '\'' :: rest => ⟨(rest.head?.map Char.toNat).getD 0, none⟩
  | text =>
    match Numeral.signed? text with
    | none => ⟨0, fault text text⟩
    | some (n, rest) =>
      let (low, high) : Int × Int := if signed then (Numeral.least, Numeral.greatest)
        else (-(UInt64.size - 1 : Nat), (UInt64.size - 1 : Nat))
      if n < low || high < n then
        let nearest := if !signed then high else if n < low then low else high
        ⟨nearest, (fault text rest).or (some (.outOfRange text))⟩
      else ⟨n, fault text rest⟩

def decimal (text : Octets) : Option (Nat × Int × Octets) :=
  let whole := text.takeWhile Octets.isDigit
  let rest := text.drop whole.length
  let part := match rest with
    | '.' :: rest => rest.takeWhile Octets.isDigit
    | _ => []
  let rest := if rest.head? = some '.' && whole ++ part != [] then rest.drop (part.length + 1)
    else rest
  if whole ++ part = [] then none
  else
    let (power, rest) : Int × Octets := match rest with
      | e :: more =>
        if e = 'e' || e = 'E' then
          let (negative, digits) := match more with
            | '-' :: more => (true, more)
            | '+' :: more => (false, more)
            | more => (false, more)
          let power := digits.takeWhile Octets.isDigit
          let after := digits.drop power.length
          if power = [] then (0, rest)
          else (if negative then -(Octets.natural power : Int) else Octets.natural power, after)
        else (0, rest)
      | [] => (0, [])
    some (Octets.natural (whole ++ part), power - part.length, rest)

def bitsOf (n : Nat) (power : Int) : Nat :=
  (Float.ofScientific n (power < 0) power.natAbs).toBits.toNat

def extended (n : Nat) (power : Int) : Decimal.Binary :=
  let above := n * Nat.pow 10 power.toNat
  let below := Nat.pow 10 (-power).toNat
  if n = 0 then .ofBits 0
  else
    let guess : Int := (above.log2 : Int) - below.log2 - 63
    let mantissa (scale : Int) : Nat :=
      Decimal.roundedQuotient (above * Nat.pow 2 (-scale).toNat) (below * Nat.pow 2 scale.toNat)
    let scale := if mantissa guess < Nat.pow 2 63 then guess - 1 else guess
    { mantissa := mantissa scale, scale, narrowBelow := false }

inductive Real where
  | number (b : Decimal.Binary)
  | infinite
  | none

def real (style : Style) (argument : Octets) : Heard (Bool × Real) :=
  match argument with
  | [] => ⟨(false, .number (.ofBits 0)), none⟩
  | '"' :: rest | '\'' :: rest =>
    ⟨(false, .number (.ofBits (bitsOf ((rest.head?.map Char.toNat).getD 0) 0))), none⟩
  | text =>
    let body := text.dropWhile Octets.isSpace
    let negative := body.head? = some '-'
    let body := if negative || body.head? = some '+' then body.tail else body
    let word := String.ofList (body.map Char.toLower)
    if word = "inf" || word = "infinity" then ⟨(negative, .infinite), none⟩
    else if word = "nan" then ⟨(negative, .none), none⟩
    else match decimal body with
      | Option.none => ⟨(false, .number (.ofBits 0)), fault text text⟩
      | some (n, power, rest) =>
        let bits := bitsOf n power
        if style != .plain && -4000 < power && power < 4000 then
          ⟨(negative, .number (extended n power)), fault text rest⟩
        else if Nat.pow 2 52 * 2047 ≤ bits then
          ⟨(negative, .infinite), (fault text rest).or (some (.outOfRange text))⟩
        else
          let isTiny := n != 0 && bits < Nat.pow 2 52
          ⟨(negative, .number (.ofBits bits)),
            (fault text rest).or (if isTiny then some (.outOfRange text) else none)⟩

def binaryParts (style : Style) (b : Decimal.Binary) : Nat × Nat × Int :=
  let (room, first) : Nat × Nat := if style = .plain then (53, 1) else (64, 4)
  if b.mantissa = 0 then (0, 0, 0)
  else
    let missing := room - (b.mantissa.log2 + 1)
    let (mantissa, scale) : Nat × Int := if style = .plain && b.scale - missing < -1074 then
        (b.mantissa * Nat.pow 2 (b.scale + 1074).toNat, -1074)
      else (b.mantissa * Nat.pow 2 missing, b.scale - missing)
    let unit := Nat.pow 2 (room - first)
    (mantissa / unit, mantissa % unit, scale + (room - first : Nat))

def hexadecimalText (style : Style) (precision : Option Nat) (b : Decimal.Binary) : Octets :=
  let places := if style = .plain then 13 else 15
  let (first, part, power) := binaryParts style b
  let (first, digits) := match precision with
    | some n =>
      let all := first * Nat.pow 16 places + part
      if places ≤ n then
        let text := Nat.toDigits 16 part
        (first, List.replicate (places - text.length) '0' ++ text ++ List.replicate (n - places) '0')
      else
        let all := Decimal.roundedQuotient all (Nat.pow 16 (places - n))
        let text := Nat.toDigits 16 (all % Nat.pow 16 n)
        (all / Nat.pow 16 n, if n = 0 then [] else List.replicate (n - text.length) '0' ++ text)
    | none =>
      let text := Nat.toDigits 16 part
      let text := List.replicate (places - text.length) '0' ++ text
      (first, (text.reverse.dropWhile (· = '0')).reverse)
  let (first, power) : Nat × Int := if first = 16 then (1, power + 4) else (first, power)
  let sign := if power < 0 then "-" else "+"
  Nat.toDigits 16 first ++ (if digits = [] then [] else '.' :: digits) ++
    Octets.say s!"p{sign}{power.natAbs}"

def realText (style : Style) (layout : Layout) (c : Char) (negative : Bool) (r : Real) : Octets :=
  let sign := signOf layout negative
  let places := layout.precision.getD 6
  let text := match r with
    | .infinite => pad layout (sign ++ ['i', 'n', 'f'])
    | .none => pad layout (sign ++ ['n', 'a', 'n'])
    | .number b =>
      if c.toLower = 'a' then
        padDigits layout true (sign ++ ['0', 'x']) (hexadecimalText style layout.precision b)
      else padDigits layout true sign (match c.toLower with
        | 'f' => b.fixed places
        | 'e' => b.exponential places
        | _ => b.general places)
  if Octets.isUpper c then text.map Char.toUpper else text

structure Progress where
  reversed : Octets := []
  left : List Octets
  consumed : Bool := false
  stopped : Bool := false
  faults : List Fault := []
  broken : Option Octets := none

namespace Progress

def put (p : Progress) (octets : Octets) : Progress :=
  { p with reversed := octets.reverseAux p.reversed }

def next (p : Progress) : Octets × Progress :=
  (p.left.headD [], { p with left := p.left.tail, consumed := true })

def hear {α : Type} (p : Progress) (h : Heard α) : Progress :=
  { p with faults := h.fault.toList ++ p.faults }

def breakOff (p : Progress) (text : Octets) : Progress :=
  { p with stopped := true, broken := some text }

end Progress

def measure (p : Progress) : Octets → Option Int × Octets × Progress
  | '*' :: rest =>
    let (argument, p) := p.next
    let heard := whole true argument
    (some heard.value, rest, p.hear heard)
  | text =>
    let digits := text.takeWhile Octets.isDigit
    (if digits = [] then none else some (Octets.natural digits), text.drop digits.length, p)

def momentText (m : Manner) (form argument : Octets) : Heard Octets :=
  let heard := if argument = [] then ⟨-1, none⟩ else whole true argument
  let seconds := if heard.value = -1 || heard.value = -2 then m.now else heard.value
  let form := if form = [] then "%X".toList else form
  ⟨Calendar.shown (.ofMilliseconds (seconds * 1000)) (String.ofList form), heard.fault⟩

def convert (m : Manner) (p : Progress) (layout : Layout) (c : Char) : Progress :=
  let (argument, p) := p.next
  let limited (text : Octets) : Octets := match layout.precision with
    | some n => text.take n
    | none => text
  match c with
  | 's' => p.put (pad layout (limited argument))
  | 'b' =>
    let (text, goesOn) := match m.style with
      | .plain => unescaped (argument.length + 1) argument
      | .larger => Escaped.unescaped .either false (argument.length + 1) argument
      | .apart => Escaped.unescaped .either true (argument.length + 1) argument
    { p.put (pad layout (limited text)) with stopped := !goesOn }
  | 'q' | 'Q' => p.put (pad layout (m.quotes (if c = 'Q' then limited argument else argument)))
  | 'c' => p.put (pad layout [argument.headD '\x00'])
  | 'd' | 'i' =>
    let heard := whole true argument
    (p.hear heard).put (signed layout heard.value)
  | 'o' | 'u' | 'x' | 'X' =>
    let heard := whole false argument
    (p.hear heard).put (unsigned layout c (heard.value % UInt64.size).toNat)
  | _ =>
    let heard := real m.style argument
    (p.hear heard).put (realText m.style layout c heard.value.1 heard.value.2)

def conversions : Style → Octets
  | .plain => "sbcdiouxXaAeEfFgG".toList
  | .larger => "sbcdiouxXaAeEfFgGqQ".toList
  | .apart => "sbcdiouxXaAeEfFgGq".toList

def invalid (style : Style) (directive : Octets) (c : Char) : Octets :=
  match style with
  | .plain => directive ++ Octets.say ": invalid directive"
  | .larger => '\x60' :: c :: Octets.say "': invalid format character"
  | .apart => directive ++ Octets.say ": invalid conversion specification"

def incomplete (style : Style) (text : Octets) : Octets :=
  match style with
  | .plain => Octets.say "missing format character"
  | .larger => '\x60' :: '%' :: text ++ Octets.say "': missing format character"
  | .apart => '%' :: text ++ Octets.say ": invalid conversion specification"

def momentForm? (m : Manner) (rest : Octets) : Option (Octets × Octets) :=
  match m.style, rest with
  | .larger, '(' :: rest =>
    let form := rest.takeWhile (· != ')')
    if rest.drop form.length |>.take 2 |> (· = [')', 'T']) then
      some (form, rest.drop (form.length + 2))
    else none
  | _, _ => none

def conversion (m : Manner) (p : Progress) (text : Octets) : Progress × Octets :=
  let flags := text.takeWhile ((if m.style = .plain then "#-+ 0" else "#-+ 0'").toList.contains ·)
  let (width, rest, p) := measure p (text.drop flags.length)
  let (precision, rest, p) : Option Nat × Octets × Progress := match rest with
    | '.' :: rest =>
      let (n, rest, p) := measure p rest
      (match n with
        | some n => if n < 0 then none else some n.toNat
        | none => some 0, rest, p)
    | _ => (none, rest, p)
  let flags := if (width.getD 0) < 0 then '-' :: flags else flags
  let layout : Layout := ⟨flags.filter (· != '\''), (width.getD 0).natAbs, precision⟩
  match momentForm? m rest with
  | some (form, rest) =>
    let (argument, p) := p.next
    let heard := momentText m form argument
    ((p.hear heard).put (pad layout heard.value), rest)
  | none =>
    let rest := if m.style = .plain then rest else rest.dropWhile ("hlLjzt".toList.contains ·)
    match rest with
    | [] => (p.breakOff (incomplete m.style text), [])
    | c :: rest =>
      if (conversions m.style).contains c then (convert m p layout c, rest)
      else
        let directive := '%' :: text.take (text.length - rest.length)
        (p.breakOff (invalid m.style directive c), rest)

def formatEscape (style : Style) (rest : Octets) : Octets × Octets × Bool :=
  match style, rest with
  | .plain, rest =>
    let (octets, rest) := escape rest
    (octets, rest, true)
  | .apart, 'c' :: rest => ([], rest, false)
  | style, c :: more =>
    if c = '"' || (style = .larger && (c = '\'' || c = '?')) then ([c], more, true)
    else
      let (octets, rest) := Escaped.one .three (c :: more)
      (octets, rest, true)
  | _, [] => (['\\'], [], true)

def once (m : Manner) : (fuel : Nat) → Progress → Octets → Progress
  | 0, p, _ | _, p, [] => p
  | fuel + 1, p, '\\' :: rest =>
    let lacking := if m.style = .plain then none else Escaped.lacking? rest
    let p := match m.style, lacking with
      | .larger, some c => { p with faults := .noDigit c :: p.faults }
      | .apart, some _ => p.breakOff (Octets.say "missing hexadecimal number in escape")
      | _, _ => p
    if p.stopped then p
    else
    let (octets, rest, goesOn) := formatEscape m.style rest
    if goesOn then once m fuel (p.put octets) rest else { p with stopped := true }
  | fuel + 1, p, '%' :: '%' :: rest => once m fuel (p.put ['%']) rest
  | fuel + 1, p, '%' :: rest =>
    let (p, rest) := conversion m p rest
    if p.stopped then p else once m fuel p rest
  | fuel + 1, p, c :: rest => once m fuel (p.put [c]) rest

def repeated (m : Manner) (format : Octets) : (fuel : Nat) → Progress → Progress
  | 0, p => p
  | fuel + 1, p =>
    let p := once m format.length { p with consumed := false } format
    if p.stopped || p.left = [] || !p.consumed then p else repeated m format fuel p

structure Outcome where
  output : Octets
  complaints : List Octets
  status : Nat

def run (m : Manner) (format : Octets) (arguments : List Octets) : Outcome :=
  let p := repeated m format (arguments.length + 1) { left := arguments }
  let excess := match m.style, p.left with
    | .apart, first :: _ =>
      if p.broken.isNone && !p.stopped then
        [Octets.say "warning: ignoring excess arguments, starting with '" ++ first ++ ['\'']]
      else []
    | _, _ => []
  let isWarning : Fault → Bool
    | .outOfRange _ => m.style = .larger
    | .noDigit _ => true
    | _ => false
  { output := p.reversed.reverse
    complaints := p.faults.reverse.map (·.message m.style) ++ p.broken.toList ++ excess
    status := if p.broken.isSome then if m.style = .plain then 2 else 1
      else if p.faults.all isWarning then 0 else 1 }

def echo (arguments : List Octets) : Octets :=
  let (lineEnd, arguments) := match arguments with
    | ['-', 'n'] :: rest => ([], rest)
    | _ => (['\n'], arguments)
  let text := [' '].intercalate arguments
  let (text, goesOn) := unescaped (text.length + 1) text
  if goesOn then text ++ lineEnd else text

end SvelteTransform.Sandbox.Tools.Printf
