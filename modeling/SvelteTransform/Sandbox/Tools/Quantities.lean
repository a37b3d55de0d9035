import SvelteTransform.Sandbox.Tools.Columns
import SvelteTransform.Sandbox.Tools.Printf

/-! Numbers with units after them: thousands by their letters, read and written. Values are exact
quotients until they are rounded. -/
namespace SvelteTransform.Sandbox.Tools.Quantities

structure Amount where
  above : Int
  below : Nat := 1

namespace Amount

def times (a : Amount) (n : Nat) : Amount := { a with above := a.above * n }
def dividedBy (a : Amount) (n : Nat) : Amount := { a with below := a.below * n }

def reaches (a : Amount) (n : Nat) : Bool := n * a.below ≤ a.above.natAbs

end Amount

inductive Scale where
  | none
  | auto
  | decimal
  | binary
  | binaryNamed
  deriving DecidableEq

def Scale.base : Scale → Nat
  | .binary | .binaryNamed => 1024
  | _ => 1000

def letters : Octets := "KMGTPEZYRQ".toList

inductive Fault where
  | noNumber
  | overflow
  | forbiddenUnit
  | noUnit
  | noMark
  | rest (text : Octets)

def Fault.message (text : Octets) : Fault → Octets
  | .noNumber => Octets.say "invalid number: " ++ quoted text
  | .overflow => Octets.say "value too large to be converted: " ++ quoted text
  | .forbiddenUnit =>
    Octets.say "rejecting suffix in input: " ++ quoted text ++ Octets.say " (consider using --from)"
  | .noUnit => Octets.say "invalid suffix in input: " ++ quoted text
  | .noMark =>
    Octets.say "missing 'i' suffix in input: " ++ quoted text ++ Octets.say " (e.g Ki/Mi/Gi)"
  | .rest left => Octets.say "invalid suffix in input " ++ quoted text ++ ':' :: ' ' :: quoted left

def digits (text : Octets) : Except Fault (Octets × Octets) := do
  let found := text.takeWhile Octets.isDigit
  let rest := text.drop found.length
  if found = [] && rest.head? != some '.' then throw .noNumber
  if 33 < (found.dropWhile (· = '0')).length then throw .overflow
  return (found, rest)

def number (text : Octets) : Except Fault (Amount × Nat × Octets) := do
  let negative := text.head? = some '-'
  let (whole, rest) ← digits (if negative then text.tail else text)
  let signed (n : Nat) : Int := if negative then -(n : Int) else n
  match rest with
  | '.' :: rest =>
    let (part, rest) ← digits rest
    return ({ above := signed (Octets.natural (whole ++ part)), below := Nat.pow 10 part.length },
      part.length, rest)
  | rest => return ({ above := signed (Octets.natural whole) }, 0, rest)

def read (scale : Scale) (text : Octets) : Except Fault (Amount × Nat) := do
  let (a, places, rest) ← number text
  let unit := rest.dropWhile Octets.isBlank
  let (power, isNamed, places, rest) ← match rest, unit with
    | [], _ => pure (0, false, places, [])
    | _, c :: more =>
      match letters.idxOf? c with
      | none => throw .noUnit
      | some i =>
        if scale = .none then throw .forbiddenUnit
        let isNamed := scale = .auto && more.head? = some 'i'
        pure (i + 1, isNamed, 0, if isNamed then more.tail else more)
    | _, [] => throw .noUnit
  let rest ← if scale = .binaryNamed then
      if rest.head? = some 'i' then pure rest.tail else throw .noMark
    else pure rest
  if rest != [] then throw (.rest rest)
  return (a.times (Nat.pow (if isNamed then 1024 else scale.base) power), places)

inductive Rounding where
  | up
  | down
  | fromZero
  | towardsZero
  | nearest

def Rounding.apply (r : Rounding) (a : Amount) : Int :=
  let low := a.above.fdiv a.below
  let high := -((-a.above).fdiv a.below)
  match r with
  | .up => high
  | .down => low
  | .fromZero => if a.above < 0 then low else high
  | .towardsZero => if a.above < 0 then high else low
  | .nearest =>
    let twice : Nat := 2 * a.above.natAbs + a.below
    let n : Nat := twice / (2 * a.below)
    if a.above < 0 then -(n : Int) else n

structure Style where
  scale : Scale := .none
  rounding : Rounding := .fromZero
  places : Option Nat := none
  zeros : Nat := 0

def reduced (base : Nat) : (fuel : Nat) → Amount → Nat → Amount × Nat
  | 0, a, power => (a, power)
  | fuel + 1, a, power =>
    if a.reaches base then reduced base fuel (a.dividedBy base) (power + 1) else (a, power)

def fixed (places : Nat) (zeros : Nat) (a : Amount) : Octets :=
  let n := Decimal.roundedQuotient (a.above.natAbs * Nat.pow 10 places) a.below
  let text := Nat.toDigits 10 n
  let text := List.replicate (places + 1 - text.length) '0' ++ text
  let point := text.length - places
  let text := text.take point ++ (if places = 0 then [] else '.' :: text.drop point)
  let sign := if a.above < 0 then ['-'] else []
  sign ++ List.replicate (zeros - sign.length - text.length) '0' ++ text

def rounded (s : Style) (places : Nat) (a : Amount) : Amount :=
  { above := s.rounding.apply (a.times (Nat.pow 10 places)), below := Nat.pow 10 places }

def written (s : Style) (places : Nat) (a : Amount) : Octets :=
  if s.scale = .none then
    let places := s.places.getD places
    fixed places s.zeros (rounded s places a)
  else
    let base := s.scale.base
    let (a, power) := reduced base 60 a 0
    let kept := match s.places with
      | some n => min (power * 3) n
      | none => if a.reaches 10 then 0 else 1
    let a := rounded s kept a
    let (a, power) := if a.reaches base then (a.dividedBy base, power + 1) else (a, power)
    let shows := a.above != 0 && !a.reaches 10 && 0 < power
    let unit := if power = 0 then [] else [(letters[power - 1]?).getD '?']
    fixed (s.places.getD (if shows then 1 else 0)) s.zeros a ++ unit ++
      (if s.scale = .binaryNamed && 0 < power then ['i'] else [])

def tooLarge? (s : Style) (places : Nat) (a : Amount) : Option Octets :=
  let power := (reduced 10 400 a 0).2
  let places := s.places.getD places
  let shown :=
    let above := a.above.natAbs / a.below
    Printf.realText .larger ⟨[], 0, none⟩ 'g' (a.above < 0) (.number (Printf.extended above 0))
  if s.scale = .none && 18 < power + places then
    some <| if places = 0 then
        Octets.say "value too large to be printed: " ++ quoted shown ++
          Octets.say " (consider using --to)"
      else Octets.say "value/precision too large to be printed: " ++
        quoted (shown ++ Octets.say s!"/{places}") ++ Octets.say " (consider using --to)"
  else if 32 < power then
    some (Octets.say "value too large to be printed: " ++ quoted shown ++
      Octets.say " (cannot handle values > 999Q)")
  else none

structure Asked where
  style : Style := {}
  from_ : Scale := .none
  fromUnit : Nat := 1
  toUnit : Nat := 1
  suffix : Octets := []
  width : Nat := 0
  atLeft : Bool := false
  before : Octets := []
  after : Octets := []
  fields : List Places.Range := [⟨1, some 1⟩]
  delimiter : Option Char := none
  lineEnd : Char := '\n'
  titles : Nat := 0
  invalid : String := "abort"

def options : Options := {
  flags := "zδγ", valued := "dφΦαβιπκστυ", optional := "η"
  long := [("debug", 'δ'), ("grouping", 'γ'), ("delimiter", 'd'), ("field", 'φ'), ("format", 'Φ'),
    ("from", 'α'), ("from-unit", 'β'), ("header", 'η'), ("invalid", 'ι'), ("padding", 'π'),
    ("round", 'κ'), ("suffix", 'σ'), ("to", 'τ'), ("to-unit", 'υ'), ("zero-terminated", 'z')] }

def inputScales : List (String × Scale) :=
  [("none", .none), ("auto", .auto), ("si", .decimal), ("iec", .binary), ("iec-i", .binaryNamed)]

def roundings : List (String × Rounding) :=
  [("up", .up), ("down", .down), ("from-zero", .fromZero), ("towards-zero", .towardsZero),
   ("nearest", .nearest)]

def unitSize (text : Octets) : Except Octets Nat :=
  let digits := text.takeWhile Octets.isDigit
  let factor? : Option Nat := match text.drop digits.length with
    | [] => some 1
    | [c] => (letters.idxOf? c).map fun i => Nat.pow 1000 (i + 1)
    | [c, 'i'] => (letters.idxOf? c).map fun i => Nat.pow 1024 (i + 1)
    | _ => none
  match factor? with
  | some factor =>
    if digits = [] || Octets.natural digits = 0 then .error (wrong text)
    else .ok (Octets.natural digits * factor)
  | none => .error (wrong text)
where
  wrong (text : Octets) : Octets := Octets.say "invalid unit size: " ++ quoted text

def withFormat (a : Asked) (format : Octets) : Except Octets (Asked × Bool) := do
  let wrong {α : Type} (text : String) : Except Octets α :=
    .error (Octets.say "format " ++ quoted format ++ Octets.say s!" {text}")
  let rec plain : Octets → Octets
    | '%' :: '%' :: rest => '%' :: '%' :: plain rest
    | '%' :: _ => []
    | c :: rest => c :: plain rest
    | [] => []
  let before := plain format
  match format.drop before.length with
  | [] => wrong "has no % directive"
  | _ :: rest =>
    let flags := rest.takeWhile [' ', '\'', '0'].contains
    let rest := rest.drop flags.length
    let negative := rest.head? = some '-'
    let digits := (if negative then rest.tail else rest).takeWhile Octets.isDigit
    let rest := if digits = [] then rest else (if negative then rest.tail else rest).drop digits.length
    let width := Octets.natural digits
    if rest = [] then wrong "ends in %"
    let (places, rest) ← match rest with
      | '.' :: rest =>
        let places := rest.takeWhile Octets.isDigit
        if rest.head?.any ['-', '+', ' ', '\t'].contains then
          throw (Octets.say "invalid precision in format " ++ quoted format)
        pure (some (Octets.natural places), rest.drop places.length)
      | rest => pure (none, rest)
    if rest.head? != some 'f' then
      throw (Octets.say "invalid format " ++ quoted format ++
        Octets.say ", directive must be %[0]['][-][N][.][N]f")
    let after := rest.tail
    if (plain after).length < after.length then wrong "has too many % directives"
    let zeros := if flags.contains '0' && !negative then width else 0
    return ({ a with
      before, after
      style := { a.style with places := places.or a.style.places, zeros }
      width := if width = 0 || zeros != 0 then a.width else width
      atLeft := if width = 0 then a.atLeft else negative }, flags.contains '\'')

def heed (a : Asked) (letter : Char) (value : Octets) : Except (Octets × Bool) Asked := do
  let hinted {α : Type} (e : Except Octets α) : Except (Octets × Bool) α := e.mapError (·, true)
  let bare {α : Type} (e : Except Octets α) : Except (Octets × Bool) α := e.mapError (·, false)
  match letter with
  | 'd' =>
    if 1 < value.length then
      throw (Octets.say "the delimiter must be a single character", false)
    return { a with delimiter := value.head?.or (some '\x00') }
  | 'φ' =>
    return { a with fields := ← hinted (Places.read false (if value = ['-'] then "1-".toList else value)) }
  | 'α' => return { a with from_ := ← hinted (choice "from" inputScales value) }
  | 'β' => return { a with fromUnit := ← bare (unitSize value) }
  | 'τ' =>
    let scale ← hinted (choice "to" (inputScales.filter (·.1 != "auto")) value)
    return { a with style := { a.style with scale } }
  | 'υ' => return { a with toUnit := ← bare (unitSize value) }
  | 'η' =>
    if value = [] then return { a with titles := 1 }
    if !Octets.isNumber value || Octets.natural value = 0 then
      throw (Octets.say "invalid header value " ++ quoted value, false)
    return { a with titles := Octets.natural value }
  | 'ι' =>
    let known := ["abort", "fail", "warn", "ignore"].map fun name => (name, name)
    return { a with invalid := ← hinted (choice "invalid" known value) }
  | 'π' =>
    match Octets.integer? value with
    | some n =>
      if n = 0 then throw (Octets.say "invalid padding value " ++ quoted value, false)
      return { a with width := n.natAbs, atLeft := n < 0 }
    | none => throw (Octets.say "invalid padding value " ++ quoted value, false)
  | 'κ' =>
    let rounding ← hinted (choice "round" roundings value)
    return { a with style := { a.style with rounding } }
  | 'σ' => return { a with suffix := value }
  | 'z' => return { a with lineEnd := '\x00' }
  | _ => return a

def field (a : Asked) (number : Nat) (text : Octets) : Octets × Option Octets :=
  if !a.fields.any (·.holds number) then (text, none)
  else
    let cut := if a.suffix.length < text.length && a.suffix.isSuffixOf text then
        text.take (text.length - a.suffix.length)
      else text
    let body := cut.dropWhile Octets.isBlank
    let pads := a.width = 0 && a.delimiter.isNone && (body.length < cut.length || 1 < number)
    let width := if pads then cut.length else a.width
    match read a.from_ body with
    | .error fault => (cut, some (fault.message body))
    | .ok (amount, places) =>
      let amount := (amount.times a.fromUnit).dividedBy a.toUnit
      match tooLarge? a.style places amount with
      | some text => (cut, some text)
      | none =>
        let value := written a.style places amount ++ a.suffix
        let value := if a.atLeft then padRight width value else padLeft width value
        (a.before ++ value ++ a.after, none)

def fieldsOf (delimiter : Option Char) : (fuel : Nat) → Octets → List Octets
  | 0, line => [line]
  | fuel + 1, line =>
    let ends (c : Char) : Bool := match delimiter with
      | some d => c = d
      | none => Octets.isBlank c || c = '\n'
    let start := if delimiter.isNone then line.takeWhile ends else []
    let rest := line.drop start.length
    let word := rest.takeWhile (!ends ·)
    match rest.drop word.length with
    | [] => [start ++ word]
    | _ :: rest => (start ++ word) :: fieldsOf delimiter fuel rest

def line (c : Call) (a : Asked) (text : Octets) (ended : Bool) : Running (Bool × Bool) := do
  let between := [a.delimiter.getD ' ']
  let mut done := []
  let mut isRight := true
  for (part, i) in (fieldsOf a.delimiter (text.length + 1) text).zipIdx do
    let (shown, wrong) := field a (i + 1) part
    if let some message := wrong then
      isRight := false
      if a.invalid = "abort" then
        print done.reverse.flatten
        complain c message 2
        return (false, false)
      unless a.invalid = "ignore" do tell (c.name ++ ':' :: ' ' :: message ++ ['\n'])
    done := shown :: (if i = 0 then [] else between) :: done
  print (done.reverse.flatten ++ (if ended then [a.lineEnd] else []))
  return (isRight, true)

def convertAll (c : Call) (a : Asked) : List (Octets × Bool) → Running Bool
  | [] => return true
  | (text, ended) :: rest => do
    let (isRight, goesOn) ← line c a text ended
    if !goesOn then return false
    let others ← convertAll c a rest
    return isRight && others

def numfmt (c : Call) : Running Unit :=
  withOptions c options fun given => do
    match given.options.foldlM (fun a (letter, value) => heed a letter value) ({} : Asked) with
    | .error (text, true) => tryHelp c text
    | .error (text, false) => complain c text
    | .ok asked =>
      let formatted := match given.value? 'Φ' with
        | some format => withFormat asked format
        | none => .ok (asked, false)
      match formatted with
      | .error text => complain c text
      | .ok (asked, groups) =>
        if given.has 'γ' && given.has 'Φ' then
          complain c (Octets.say "--grouping cannot be combined with --format")
        else if (groups || given.has 'γ') && asked.style.scale != .none then
          complain c (Octets.say "grouping cannot be combined with --to")
        else
          let isIdle := ['α', 'τ', 'β', 'υ', 'γ', 'π', 'Φ'].all (!given.has ·)
          if given.has 'δ' && isIdle then
            tell (c.name ++ Octets.say ": no conversion option specified\n")
          let isRight ← if given.operands != [] then
              convertAll c asked (given.operands.map (·, true))
            else do
              let text ← readJoined c []
              let lines := Octets.partsTo asked.lineEnd text
              print (lines.take asked.titles).flatten
              convertAll c asked ((lines.drop asked.titles).map fun text =>
                if text.getLast? = some asked.lineEnd then (text.dropLast, true) else (text, false))
          if !isRight && !(["warn", "ignore"].contains asked.invalid) then fails 2

end SvelteTransform.Sandbox.Tools.Quantities
