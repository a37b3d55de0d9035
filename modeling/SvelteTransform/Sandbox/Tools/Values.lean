import SvelteTransform.Sandbox.Regex
import SvelteTransform.Sandbox.Signal
import SvelteTransform.Sandbox.Tools.Condition
import SvelteTransform.Sandbox.Tools.Launcher
import SvelteTransform.Sandbox.Tools.Printf

/-! Programs that make their output from their arguments. -/
namespace SvelteTransform.Sandbox.Tools

def echo (c : Call) : Running Unit :=
  let isOption (text : Octets) : Bool :=
    1 < text.length && text.head? = some '-' && text.tail.all ['n', 'e', 'E'].contains
  let letters := (c.operands.takeWhile isOption).flatMap List.tail
  let words := c.operands.dropWhile isOption
  let text := [' '].intercalate words
  let lineEnd := if letters.contains 'n' then [] else ['\n']
  let resolves := (letters.filter (· != 'n')).getLast? = some 'e'
  if resolves then
    let (text, goesOn) := Escaped.unescaped .short false (text.length + 1) text
    print (if goesOn then text ++ lineEnd else text)
  else print (text ++ lineEnd)

def printf (c : Call) : Running Unit := do
  match c.operands with
  | [] => missingOperand c
  | ['-', '-'] :: format :: arguments | format :: arguments =>
    let outcome := Printf.run { style := .apart, quotes := quotedIfWild } format arguments
    for text in outcome.complaints do complain c text
    print outcome.output
    fails (if outcome.status = 0 then 0 else 1)

def yes (c : Call) : Running Unit := do
  let words := if c.operands = [] then [['y']] else c.operands
  let line := [' '].intercalate words ++ ['\n']
  modify ({ · with cut := true })
  print (List.replicate (c.patience / line.length) line).flatten

def printenv (c : Call) : Running Unit :=
  withOptions c { flags := "0" } fun given => do
    if given.operands = [] then
      for (name, value) in c.environment do print (name ++ '=' :: value ++ ['\n'])
    for name in given.operands do
      match c.environment.lookup name with
      | some value => print (value ++ ['\n'])
      | none => fails 1

structure Fixed where
  value : Int
  places : Nat
  width : Nat := 1

namespace Fixed

def hexadecimal? (body : Octets) : Option (Nat × Nat × Nat) :=
  match body with
  | '0' :: x :: digits =>
    if (x = 'x' || x = 'X') && digits != [] && digits.all (Numeral.isDigitOf 16) then
      some (Numeral.valueOf 16 digits, 0, digits.length + 2)
    else none
  | _ => none

def decimal? (body : Octets) : Option (Nat × Nat × Nat) := do
  let whole := body.takeWhile Octets.isDigit
  let rest := body.drop whole.length
  let (part, rest) := match rest with
    | '.' :: rest => (rest.takeWhile Octets.isDigit, rest.dropWhile Octets.isDigit)
    | rest => ([], rest)
  if whole ++ part = [] then none
  else
    let n := Octets.natural (whole ++ part)
    let plain := whole.length + part.length + (if part = [] then 0 else 1) + (if whole = [] then 1 else 0)
    match rest with
    | [] => some (n, part.length, plain)
    | 'e' :: exponent | 'E' :: exponent =>
      let (below, digits) := match exponent with
        | '-' :: digits => (true, digits)
        | '+' :: digits => (false, digits)
        | digits => (false, digits)
      if !Octets.isNumber digits then none
      else
        let power := Octets.natural digits
        if below then some (n, part.length + power, max plain (power + 2))
        else some (n * Nat.pow 10 (power - part.length), part.length - power, plain + power)
    | _ => none

def of? (text : Octets) : Option Fixed := do
  let text := text.dropWhile fun c => Octets.isSpace c || c = '+'
  let (negative, body) := match text with
    | '-' :: rest => (true, rest)
    | rest => (false, rest)
  let (n, places, width) ← (hexadecimal? body).or (decimal? body)
  return ⟨if negative then -(n : Int) else n, places, width + (if negative then 1 else 0)⟩

def scaled (f : Fixed) (places : Nat) : Int := f.value * (Nat.pow 10 (places - f.places) : Nat)

def text (places : Nat) (value : Int) : Octets :=
  let digits := Nat.toDigits 10 value.natAbs
  let digits := List.replicate (places + 1 - digits.length) '0' ++ digits
  let point := digits.length - places
  (if value < 0 then ['-'] else []) ++ digits.take point ++
    (if places = 0 then [] else '.' :: digits.drop point)

end Fixed

def zeroFilled (width : Nat) (text : Octets) : Octets :=
  let (sign, digits) := if text.head? = some '-' then (['-'], text.tail) else ([], text)
  sign ++ List.replicate (width - text.length) '0' ++ digits

def formatFault? (format : Octets) : Option Octets :=
  let wrong (text : Octets) : Option Octets :=
    some (Octets.say "format " ++ quoted format ++ Octets.say " " ++ text)
  let rec afterFirst : Octets → Option Octets
    | '%' :: '%' :: rest => afterFirst rest
    | '%' :: _ => wrong (Octets.say "has too many % directives")
    | _ :: rest => afterFirst rest
    | [] => none
  let rec first : Octets → Option Octets
    | '%' :: '%' :: rest => first rest
    | '%' :: rest =>
      let rest := rest.dropWhile ("-+#0 '".toList.contains ·)
      let rest := rest.dropWhile Octets.isDigit
      let rest := match rest with
        | '.' :: rest => rest.dropWhile Octets.isDigit
        | rest => rest
      let rest := if rest.head? = some 'L' then rest.tail else rest
      match rest with
      | [] => wrong (Octets.say "ends in %")
      | c :: rest =>
        if "aAeEfFgG".toList.contains c then afterFirst rest
        else wrong (Octets.say "has unknown %" ++ c :: Octets.say " directive")
    | _ :: rest => first rest
    | [] => wrong (Octets.say "has no % directive")
  first format

def seq (c : Call) : Running Unit := do
  let options : Options := {
    flags := "w", valued := "sf", mixed := false
    long := [("equal-width", 'w'), ("separator", 's'), ("format", 'f')] }
  -- A negative number is no option.
  let isNumber (text : Octets) : Bool := (Fixed.of? text).isSome
  let before := c.operands.takeWhile (!isNumber ·)
  let separates := before.getLast?.any fun text => text = "-s".toList || text = "-f".toList
  let before := if separates then c.operands.take (before.length + 1) else before
  let numbers := c.operands.drop before.length
  withOptions { c with arguments := c.name :: before ++ ["--".toList] ++ numbers } options
    fun given => do
    match given.operands.find? (!isNumber ·), given.operands.filterMap Fixed.of? with
    | some wrong, _ => tryHelp c (Octets.say "invalid floating point argument: " ++ quoted wrong)
    | none, [] => missingOperand c
    | none, numbers =>
      let (first, step, last) : Fixed × Fixed × Fixed := match numbers with
        | [last] => (⟨1, 0, 1⟩, ⟨1, 0, 1⟩, last)
        | [first, last] => (first, ⟨1, 0, 1⟩, last)
        | first :: step :: last :: _ => (first, step, last)
        | [] => (⟨1, 0, 1⟩, ⟨1, 0, 1⟩, ⟨0, 0, 1⟩)
      let places := max first.places step.places
      let scale := max places last.places
      let start := first.scaled scale
      let step := step.scaled scale
      let stop := last.scaled scale
      if 3 < numbers.length then
        tryHelp c (Octets.say "extra operand " ++ quoted ((given.operands[3]?).getD []))
      else if let some text := (given.value? 'f').bind formatFault? then complain c text
      else if given.has 'w' && (given.value? 'f').isSome then
        tryHelp c (Octets.say "format string may not be specified when printing equal width strings")
      else if step = 0 then
        tryHelp c (Octets.say "invalid Zero increment value: " ++ quoted ((given.operands[1]?).getD []))
      else
        let room : Int := if 0 < step then stop - start else start - stop
        let count := if room < 0 then 0 else room.natAbs / step.natAbs + 1
        if c.patience / 2 < count then modify ({ · with cut := true })
        let count := min count (c.patience / 2)
        let down : Nat := Nat.pow 10 (scale - places)
        let values := (List.range count).map fun (i : Nat) => (start + step * i).tdiv down
        let texts := values.map (Fixed.text places)
        let point (f : Fixed) : Nat := if f.places = 0 && 0 < places then 1 else 0
        let spare := if 0 < last.places && places = 0 then 1 else 0
        let width := max (first.width + (places - first.places) + point first)
          (last.width + places - last.places + point last - spare)
        let texts := if given.has 'w' then texts.map (zeroFilled width) else texts
        let texts := match given.value? 'f' with
          | some format => texts.map fun text => (Printf.run {} format [text]).output
          | none => texts
        if !texts.isEmpty then
          print (((given.value? 's').getD ['\n']).intercalate texts ++ ['\n'])

def sleep (c : Call) : Running Unit := do
  if c.operands = [] then missingOperand c
  else
    match c.operands.find? fun text => (Launcher.duration? text).isNone with
    | some wrong =>
      complain c (Octets.say "invalid time interval " ++ quoted wrong)
      tell (Octets.say "Try '" ++ c.name ++ Octets.say " --help' for more information.\n")
    | none =>
      let total := (c.operands.filterMap Launcher.duration?).foldl (· + ·) 0
      modify fun r => { r with pause := r.pause + total }

namespace Expression

abbrev Parsed := Except (String × Nat) (Octets × List Octets)

def numberOf (text : Octets) : Except (String × Nat) Int :=
  match Octets.integer? text with
  | some n => if text.head? = some '+' then .error ("non-integer argument", 2) else .ok n
  | none => .error ("non-integer argument", 2)

def isFalse (text : Octets) : Bool :=
  text = [] || (Octets.integer? text = some 0 && text.head? != some '+')

def truth (b : Bool) : Octets := if b then ['1'] else ['0']

def comparisons : List String := ["<", "<=", "=", "==", "!=", ">=", ">"]

def compared (operator : String) (a b : Octets) : Bool :=
  let (less, equal) : Bool × Bool := match numberOf a, numberOf b with
    | .ok m, .ok n => (m < n, m = n)
    | _, _ => (a < b, a = b)
  match operator with
  | "<" => less
  | "<=" => less || equal
  | "=" | "==" => equal
  | "!=" => !equal
  | ">=" => !less
  | _ => !(less || equal)

def matched (text pattern : Octets) : Except (String × Nat) Octets :=
  match Regex.ofText? false pattern with
  | none => .error (Regex.fault false pattern, 2)
  | some r =>
    let hasGroup := (pattern.zip pattern.tail).contains ('\\', '(')
    match r.matchAt false false ⟨0, none, text, []⟩ with
    | some m =>
      .ok (if hasGroup then (m.groups.lookup 1).getD [] else Octets.ofInt (m.text.length : Nat))
    | none => .ok (if hasGroup then [] else ['0'])

def levels : List (List String) :=
  [["|"], ["&"], comparisons, ["+", "-"], ["*", "/", "%"], [":"]]

def applied (operator : String) (a b : Octets) : Except (String × Nat) Octets := do
  match operator with
  | "|" => return if !isFalse a then a else if isFalse b then ['0'] else b
  | "&" => return if isFalse a || isFalse b then ['0'] else a
  | ":" => matched a b
  | "+" => return Octets.ofInt ((← numberOf a) + (← numberOf b))
  | "-" => return Octets.ofInt ((← numberOf a) - (← numberOf b))
  | "*" => return Octets.ofInt ((← numberOf a) * (← numberOf b))
  | "/" | "%" => do
    let m ← numberOf a
    let n ← numberOf b
    if n = 0 then throw ("division by zero", 2)
    return Octets.ofInt (if operator = "/" then m.tdiv n else m.tmod n)
  | operator => return truth (compared operator a b)

mutual
def level : (fuel : Nat) → List (List String) → List Octets → Parsed
  | 0, _, _ => .error ("syntax error", 2)
  | fuel + 1, [], words => primary fuel words
  | fuel + 1, operators :: tighter, words => do
    let (a, rest) ← level fuel tighter words
    chain fuel operators tighter a rest

def chain : (fuel : Nat) → List String → List (List String) → Octets → List Octets → Parsed
  | 0, _, _, _, _ => .error ("syntax error", 2)
  | fuel + 1, operators, tighter, a, words => do
    match words with
    | operator :: rest =>
      if operators.any (·.toList = operator) then
        let (b, rest) ← level fuel tighter rest
        chain fuel operators tighter (← applied (String.ofList operator) a b) rest
      else return (a, words)
    | [] => return (a, [])

def primary : (fuel : Nat) → List Octets → Parsed
  | 0, _ => .error ("syntax error", 2)
  | fuel + 1, words => do
    match words with
    | [] => throw ("syntax error: missing argument", 2)
    | word :: rest =>
      match String.ofList word, rest with
      | "(", rest =>
        let (a, rest) ← level fuel levels rest
        match rest with
        | [')'] :: rest => return (a, rest)
        | [] => throw ("syntax error: expecting ')'", 2)
        | word :: _ => throw (s!"syntax error: expecting ')' instead of '{String.ofList word}'", 2)
      | "length", text :: rest => return (Octets.ofInt (text.length : Nat), rest)
      | "match", text :: pattern :: rest => return (← matched text pattern, rest)
      | "index", text :: set :: rest =>
        let before := text.takeWhile (!set.contains ·)
        let place := if before.length = text.length then 0 else before.length + 1
        return (Octets.ofInt (place : Nat), rest)
      | "substr", text :: start :: count :: rest =>
        match numberOf start, numberOf count with
        | .ok m, .ok n =>
          return (if 0 < m && 0 < n then (text.drop (m.toNat - 1)).take n.toNat else [], rest)
        | _, _ => return ([], rest)
      | "+", text :: rest => return (text, rest)
      | _, rest => return (word, rest)
end

def value (words : List Octets) : Except (String × Nat) Octets := do
  match level (20 * words.length + 20) levels words with
  | .error (text, status) =>
    let last := String.ofList (words.getLast?.getD [])
    let isAtEnd := text = "syntax error: missing argument" || text = "syntax error: expecting ')'"
    throw (if isAtEnd then s!"{text} after '{last}'" else text, status)
  | .ok (a, []) => return a
  | .ok (_, word :: _) =>
    throw (s!"syntax error: unexpected argument '{String.ofList word}'", 2)

end Expression

def expr (c : Call) : Running Unit := do
  let words := if c.operands.head? = some ['-', '-'] then c.operands.tail else c.operands
  if words = [] then missingOperand c 2
  else match Expression.value words with
    | .error (text, status) => complain c (Octets.say text) status
    | .ok value =>
      print (value ++ ['\n'])
      if Expression.isFalse value then fails 1

def test (c : Call) : Running Unit := do
  let bracketed := c.name.getLast? = some '['
  if bracketed && c.operands.getLast? != some [']'] then
    complain c (Octets.say "missing ']'") 2
  else
    match Condition.holds ⟨c.files, c.here, true⟩ (if bracketed then c.operands.dropLast else c.operands) with
    | .ok holds => fails (if holds then 0 else 1)
    | .error text => complain c text 2

def kill (c : Call) : Running Unit := do
  let (signal, processes) : Option Nat × List Octets := match c.operands with
    | ['-', 's'] :: name :: rest => (Launcher.signal? name, rest)
    | ('-' :: name) :: rest => (Launcher.signal? name, rest)
    | rest => (some 15, rest)
  match signal with
  | none => complain c (Octets.say "unknown signal")
  | some signal =>
    for process in processes do
      match Octets.integer? process with
      | some n =>
        if 0 < n then modify fun r => { r with sent := r.sent ++ [(n.toNat, signal)] }
      | none =>
        complain c (Octets.say "failed to parse argument: " ++ quoted process)

end SvelteTransform.Sandbox.Tools
