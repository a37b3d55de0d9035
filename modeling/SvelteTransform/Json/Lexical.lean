import SvelteTransform.Json.Fault

/-! The parts of a JSON text that do not nest: blanks, words, strings and numbers. A value that
will be used is read in full; one that will be thrown away is only checked, by laxer rules: its
numbers may be of any size and its strings may hold surrogates that pair with nothing. -/
namespace SvelteTransform.Json.Reader

def isSpace (c : Char) : Bool := c = ' ' || c = '\t' || c = '\n' || c = '\r'

def skipSpace (s : List Char) : List Char := s.dropWhile isSpace

def word : List Char → List Char → Except Fault (List Char)
  | [], s => .ok s
  | _ :: _, [] => refuse .endInValue []
  | e :: more, c :: s => if c = e then word more s else refuseNext .noWord (c :: s)

inductive Care where
  | used
  | discarded
  deriving DecidableEq, Repr

def hexDigit? (c : Char) : Option Nat :=
  if '0' ≤ c ∧ c ≤ '9' then some (c.toNat - '0'.toNat)
  else if 'a' ≤ c ∧ c ≤ 'f' then some (c.toNat - 'a'.toNat + 10)
  else if 'A' ≤ c ∧ c ≤ 'F' then some (c.toNat - 'A'.toNat + 10)
  else none

def simpleEscape? : Char → Option Char
  | '"' => some '"'
  | '\\' => some '\\'
  | '/' => some '/'
  | 'b' => some '\x08'
  | 'f' => some '\x0c'
  | 'n' => some '\n'
  | 'r' => some '\r'
  | 't' => some '\t'
  | _ => none

inductive Within where
  | plain
  | escape
  | hex (taken : Nat) (value : Nat) (unit : Option Nat)
  | secondEscape (unit : Nat)
  | secondHex (unit : Nat)
  deriving DecidableEq, Repr

def refuseHex {α : Type} (taken : Nat) (s : List Char) : Except Fault α :=
  -- All four digits are taken before any of them is looked at.
  let bytes := taken + Text.byteCount s
  if bytes < 4 then .error ⟨.endInString, 0⟩ else .error ⟨.badEscape, bytes - 4⟩

inductive Unit16 where
  | character (c : Char)
  | firstHalf (unit : Nat)
  | refused

def unit16 (care : Care) (value : Nat) : Option Nat → Unit16
  | none =>
    if care = .discarded then .character Text.replacement
    else if 0xDC00 ≤ value ∧ value ≤ 0xDFFF then .refused
    else if 0xD800 ≤ value ∧ value ≤ 0xDBFF then .firstHalf value
    else .character (Char.ofNat value)
  | some first =>
    if 0xDC00 ≤ value ∧ value ≤ 0xDFFF then
      .character (Char.ofNat (0x10000 + (first - 0xD800) * 0x400 + (value - 0xDC00)))
    else .refused

def Care.keep (care : Care) (c : Char) (read : List Char) : List Char :=
  match care with
  | .used => c :: read
  | .discarded => read

def stringFrom (care : Care) :
    Within → (read : List Char) → List Char → Except Fault (String × List Char)
  | .hex taken _ _, _, [] => refuseHex taken []
  | _, _, [] => refuse .endInString []
  | .plain, read, c :: s =>
    if c = '"' then .ok (String.ofList read.reverse, s)
    else if c = '\\' then stringFrom care .escape read s
    else if c.toNat < 0x20 then
      match care with
      | .used => refuseNext .controlCharacter (c :: s)
      | .discarded => refuse .controlCharacter (c :: s)
    else stringFrom care .plain (care.keep c read) s
  | .escape, read, c :: s =>
    if c = 'u' then stringFrom care (.hex 0 0 none) read s
    else match simpleEscape? c with
      | some d => stringFrom care .plain (care.keep d read) s
      | none => refuseNext .badEscape (c :: s)
  | .hex taken value unit, read, c :: s =>
    match hexDigit? c with
    | none => refuseHex taken (c :: s)
    | some d =>
      let value := value * 16 + d
      if taken < 3 then stringFrom care (.hex (taken + 1) value unit) read s
      else match unit16 care value unit with
        | .character d => stringFrom care .plain (care.keep d read) s
        | .firstHalf unit => stringFrom care (.secondEscape unit) read s
        | .refused => refuse .loneSurrogate s
  | .secondEscape unit, read, c :: s =>
    if c = '\\' then stringFrom care (.secondHex unit) read s
    else refuseNext .halfSurrogate (c :: s)
  | .secondHex unit, read, c :: s =>
    if c = 'u' then stringFrom care (.hex 0 0 (some unit)) read s
    else refuseNext .halfSurrogate (c :: s)

def string (care : Care) (s : List Char) : Except Fault (String × List Char) :=
  stringFrom care .plain [] s

def isDigit (c : Char) : Bool := '0' ≤ c && c ≤ '9'

def digitValue (c : Char) : Nat := c.toNat - '0'.toNat

structure Literal where
  negative : Bool
  whole : List Char
  fraction : Option (List Char)
  exponent : Option (Bool × List Char)
  deriving DecidableEq, Repr

def Care.cutNumber : Care → Cause
  | .used => .endInValue
  | .discarded => .badNumber

def exponentPart (care : Care) (s : List Char) : Except Fault ((Bool × List Char) × List Char) :=
  let (negative, s) := match s with
    | '+' :: s => (false, s)
    | '-' :: s => (true, s)
    | s => (false, s)
  match s with
  | [] => refuse care.cutNumber []
  | c :: _ =>
    if isDigit c then .ok ((negative, s.takeWhile isDigit), s.dropWhile isDigit)
    else refuseNext .badNumber s

def afterFraction (care : Care) (literal : Literal) (s : List Char) :
    Except Fault (Literal × List Char) :=
  match s with
  | c :: s =>
    if c = 'e' ∨ c = 'E' then do
      let (exponent, s) ← exponentPart care s
      .ok ({ literal with exponent := some exponent }, s)
    else .ok (literal, c :: s)
  | [] => .ok (literal, [])

def afterWhole (care : Care) (literal : Literal) (s : List Char) :
    Except Fault (Literal × List Char) :=
  match s with
  | '.' :: s =>
    match s.takeWhile isDigit with
    | [] => match s with
      | [] => refuse care.cutNumber []
      | _ => refuseNext .badNumber s
    | digits => afterFraction care { literal with fraction := some digits } (s.dropWhile isDigit)
  | s => afterFraction care literal s

def unsigned (care : Care) (negative : Bool) (s : List Char) : Except Fault (Literal × List Char) :=
  match s with
  | [] => refuse care.cutNumber []
  | c :: rest =>
    if c = '0' then
      match rest with
      | d :: _ =>
        if isDigit d then refuseNext .badNumber rest
        else afterWhole care ⟨negative, [c], none, none⟩ rest
      | [] => afterWhole care ⟨negative, [c], none, none⟩ rest
    else if isDigit c then
      afterWhole care ⟨negative, s.takeWhile isDigit, none, none⟩ (s.dropWhile isDigit)
    else refuseNext .badNumber s

def absorb (value : Nat) : List Char → Nat × Nat
  | [] => (value, 0)
  | c :: rest =>
    let next := value * 10 + digitValue c
    if next < UInt64.size then
      let (value, taken) := absorb next rest
      (value, taken + 1)
    else (value, 0)

def exponentValue (value : Nat) : List Char → Except Nat Nat
  | [] => .ok value
  | c :: rest =>
    let next := value * 10 + digitValue c
    if next < 0x80000000 then exponentValue next rest else .error rest.length

def powerOfTen (n : Nat) : Float := Float.ofScientific 1 false n

def shrink (n : Nat) (x : Float) : Float :=
  if n ≤ 308 then x / powerOfTen n
  else if x == 0.0 then x
  else shrink (n - 308) (x / powerOfTen 308)
termination_by n
decreasing_by omega

def scale (x : Float) (exponent : Int) : Option Float :=
  if exponent < 0 then some (shrink exponent.natAbs x)
  else if exponent ≤ 308 then
    let scaled := x * powerOfTen exponent.natAbs
    if scaled.isInf then none else some scaled
  else if x == 0.0 then some x
  else none

def ofFloat? (x : Float) : Option Number :=
  if finite : x.isFinite = true then some (.real x finite) else none

def realNumber (negative : Bool) (significand : Nat) (exponent : Int) : Option Number := do
  let x ← scale (UInt64.ofNat significand).toFloat exponent
  ofFloat? (if negative then -x else x)

def inRange : Option Number → Except Nat Number
  | some n => .ok n
  | none => .error 0

/-- The digits of a literal as one number, as far as they fit 64 bits; how many before the point do
not; and the power of ten that makes up for it. -/
structure Counted where
  significand : Nat
  dropped : Nat
  point : Int

def Literal.counted (l : Literal) : Counted :=
  let (whole, taken) := absorb 0 l.whole
  let dropped := l.whole.length - taken
  let (significand, places) := absorb whole (l.fraction.getD [])
  ⟨significand, dropped, dropped - places⟩

/-- The number a literal stands for; otherwise how many of its last characters were not needed to
see that it is out of range. -/
def Literal.number (l : Literal) : Except Nat Number :=
  let c := l.counted
  match l.exponent with
  | some (down, digits) =>
    match exponentValue 0 digits with
    | .ok e =>
      inRange (realNumber l.negative c.significand (c.point + if down then -(e : Int) else e))
    | .error more =>
      if c.significand = 0 ∨ down then inRange (realNumber l.negative 0 0) else .error more
  | none =>
    if l.fraction.isSome ∨ c.dropped ≠ 0 then
      inRange (realNumber l.negative c.significand c.point)
    else if l.negative then
      if fits : 0 < c.significand ∧ c.significand ≤ UInt64.size / 2 then
        .ok (.negative c.significand fits)
      else inRange (realNumber true c.significand 0)
    else if fits : c.significand < UInt64.size then .ok (.natural c.significand fits)
    else .error 0

def number (c : Char) (s : List Char) : Except Fault (Number × List Char) := do
  let (literal, rest) ← if c = '-' then unsigned .used true s else unsigned .used false (c :: s)
  match literal.number with
  | .ok n => .ok (n, rest)
  | .error extra => .error ⟨.numberRange, Text.byteCount rest + extra⟩

end SvelteTransform.Json.Reader
