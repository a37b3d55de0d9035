import SvelteTransform.Sandbox.Regex
import SvelteTransform.Sandbox.Tools.Text

/-! One file cut where lines have a number or match a pattern. -/
namespace SvelteTransform.Sandbox.Tools.Sections

inductive Mark where
  | number (n : Nat)
  | pattern (expression : Regex) (offset : Int) (skips : Bool)

structure Step where
  text : Octets
  mark : Mark
  times : Option Nat := some 0

def step (text : Octets) : Except Octets Step := do
  let wrong {α : Type} (what : String) : Except Octets α :=
    .error (quoted text ++ Octets.say s!": {what}")
  match text with
  | c :: rest =>
    if c = '/' || c = '%' then
      let reversed := rest.reverse.dropWhile (· != c)
      if reversed = [] then throw (text ++ Octets.say s!": closing delimiter '{c}' missing")
      let body := reversed.tail.reverse
      let after := rest.drop reversed.length
      let offset ← match after with
        | [] => pure 0
        | after => match Octets.integer? after with
          | some n => pure n
          | none => wrong "integer expected after delimiter"
      match Regex.ofText? false body with
      | some expression => return { text, mark := .pattern expression offset (c = '%') }
      | none =>
        let fault := Regex.fault false body
        wrong ("invalid regular expression: " ++
          (if fault.startsWith "Unmatched [" then "Invalid regular expression" else fault))
    else if Octets.isNumber text then
      if Octets.natural text = 0 then
        throw (text ++ Octets.say ": line number must be greater than zero")
      return { text, mark := .number (Octets.natural text) }
    else wrong "invalid pattern"
  | [] => wrong "invalid pattern"

def counted : List Octets → List (Octets × Option Octets)
  | text :: ('\x7b' :: count) :: rest => (text, some count) :: counted rest
  | text :: rest => (text, none) :: counted rest
  | [] => []

def steps : (last : Nat) → List (Octets × Option Octets) → Except Octets (List Step × List Octets)
  | _, [] => .ok ([], [])
  | last, (text, braced) :: rest => do
    let s ← step text
    let (last, warnings) ← match s.mark with
      | .number n =>
        if n < last then
          throw (Octets.say "line number " ++ quoted text ++
            Octets.say s!" is smaller than preceding line number, {last}")
        pure (n, if n = last then
          [Octets.say "warning: line number " ++ quoted text ++
            Octets.say " is the same as preceding line number"] else [])
      | _ => pure (last, [])
    let times ← match braced with
      | some body =>
        let count := body.dropLast
        if body.getLast? != some '\x7d' then
          throw (quoted ('\x7b' :: body) ++ Octets.say ": '\x7d' is required in repeat count")
        if count = ['*'] then pure none
        else if Octets.isNumber count then pure (some (Octets.natural count))
        else throw (quoted ('\x7b' :: count) ++
          Octets.say "\x7d: integer required between '\x7b' and '\x7d'")
      | none => pure (some 0)
    let (more, later) ← steps last rest
    return ({ s with times } :: more, warnings ++ later)

structure Naming where
  start : Octets := ['x', 'x']
  width : Nat := 2
  format : Option Octets := none

def formatted? (format : Octets) (n : Nat) : Option Octets := do
  let plain (text : Octets) : Octets × Octets :=
    let rec go : Octets → Octets × Octets
      | '%' :: '%' :: rest => let (a, b) := go rest; ('%' :: a, b)
      | '%' :: rest => ([], '%' :: rest)
      | c :: rest => let (a, b) := go rest; (c :: a, b)
      | [] => ([], [])
    go text
  let (before, rest) := plain format
  match rest with
  | [] => none
  | _ :: rest =>
    let flags := rest.takeWhile ("-+ #0'".toList.contains ·)
    let rest := rest.drop flags.length
    let width := rest.takeWhile Octets.isDigit
    let rest := rest.drop width.length
    let places := match rest with
      | '.' :: rest => some (rest.takeWhile Octets.isDigit)
      | _ => none
    let rest := rest.drop (places.elim 0 (·.length + 1))
    match rest with
    | letter :: rest =>
      let (after, left) := plain rest
      if left != [] || !"diuoxX".toList.contains letter then none
      else
        let base := if letter = 'o' then 8 else if letter.toLower = 'x' then 16 else 10
        let digits := Nat.toDigits base n
        let digits := if letter = 'X' then digits.map Char.toUpper else digits
        let digits := List.replicate ((places.elim 1 Octets.natural) - digits.length) '0' ++ digits
        let gap := Octets.natural width - digits.length
        let text := if flags.contains '-' then digits ++ List.replicate gap ' '
          else if flags.contains '0' && places.isNone then List.replicate gap '0' ++ digits
          else List.replicate gap ' ' ++ digits
        some (before ++ text ++ after)
    | [] => none

def Naming.name (names : Naming) (n : Nat) : Octets :=
  names.start ++ match names.format with
    | some format => (formatted? format n).getD []
    | none =>
      let digits := Nat.toDigits 10 n
      List.replicate (names.width - digits.length) '0' ++ digits

structure State where
  lines : List Octets
  passed : Nat := 0
  looked : Nat := 0
  found : List Octets := []

inductive Halt where
  | done
  | wrong (text : Octets)

abbrev Cutting := ExceptT Halt (StateM State)

def pass (keeps : Bool) (last : Nat) : Cutting Unit := modify fun s =>
  let count := last - s.passed
  { s with
    lines := s.lines.drop count
    passed := s.passed + min count s.lines.length
    found := if keeps then (s.lines.take count).flatten :: s.found else s.found }

def onRepetition (n : Nat) : Octets := if n = 0 then [] else Octets.say s!" on repetition {n}"

def cutAt (drops : Bool) (s : Step) (n : Nat) : Cutting Unit := do
  let state ← get
  let total := state.passed + state.lines.length
  match s.mark with
  | .number k =>
    let stop := k * (n + 1) - 1
    let isOut := Halt.wrong (quoted (Octets.ofInt (k : Nat)) ++
      Octets.say ": line number out of range" ++ onRepetition n)
    if drops && state.lines = [] then
      pass true stop
      throw isOut
    pass true stop
    if total < stop then throw isOut
    if drops then modify fun s => { s with lines := s.lines.drop 1, passed := s.passed + 1 }
    if !drops && (← get).lines = [] then throw isOut
  | .pattern expression offset skips =>
    let matchesLine (line : Octets) : Bool :=
      let body := if line.getLast? = some '\n' then line.dropLast else line
      (expression.find false body).isSome
    let start := state.looked + 1
    let later := state.lines.drop (start - 1 - state.passed)
    match later.findIdx? matchesLine with
    | none =>
      pass (!skips) total
      if s.times.isNone then throw .done
      throw (.wrong (quoted s.text ++ Octets.say ": match not found" ++ onRepetition n))
    | some i =>
      let place := max start (state.passed + 1) + i
      let stop : Int := place + offset
      if stop ≤ state.passed || total < stop then
        pass (!skips) (if stop ≤ state.passed then state.passed else total)
        throw (.wrong (quoted s.text ++ Octets.say ": line number out of range"))
      pass (!skips) (stop.toNat - 1)
      modify fun now => { now with looked := if 0 < offset then stop.toNat else place }
      if drops then modify fun s => { s with lines := s.lines.drop 1, passed := s.passed + 1 }

def cutTimes (drops : Bool) (s : Step) : (fuel n : Nat) → Cutting Unit
  | 0, _ => return
  | fuel + 1, n => do
    if s.times.any (· < n) then return
    cutAt drops s n
    cutTimes drops s fuel (n + 1)

def cutAll (drops : Bool) : List Step → Cutting Unit
  | [] => do
    let s ← get
    pass true (s.passed + s.lines.length)
  | s :: rest => do
    cutTimes drops s ((← get).lines.length + s.times.getD 0 + 2) 0
    cutAll drops rest

def options : Options := {
  flags := "kszqμ", valued := "bfn"
  long := [("suffix-format", 'b'), ("prefix", 'f'), ("keep-files", 'k'), ("suppress-matched", 'μ'),
    ("digits", 'n'), ("quiet", 'q'), ("silent", 's'), ("elide-empty-files", 'z')] }

def naming (given : Given) : Except Octets Naming := do
  let width ← match given.value? 'n' with
    | none => pure 2
    | some text =>
      if Octets.isNumber text then pure (Octets.natural text)
      else throw (Octets.say "invalid number: " ++ quoted text)
  if let some format := given.value? 'b' then
    if (formatted? format 0).isNone then
      throw (Octets.say (if format.contains '%' then
        "too many % conversion specifications in suffix" else "missing % conversion specification in suffix"))
  return { start := (given.value? 'f').getD ['x', 'x'], width, format := given.value? 'b' }

def writeAll (c : Call) (names : Naming) (tells elides : Bool) :
    (place : Nat) → List Octets → Running (List Octets)
  | _, [] => return []
  | place, text :: rest => do
    if elides && text = [] then return ← writeAll c names tells elides place rest
    let name := names.name place
    match (← get).files.write c.here (pathOf name) (Octets.toBytes text) with
    | .error error =>
      complainOf c name error
      return []
    | .ok files =>
      modify ({ · with files })
      if tells then print (Octets.ofInt text.length ++ ['\n'])
      return name :: (← writeAll c names tells elides (place + 1) rest)

def csplit (c : Call) : Running Unit :=
  withOptions c options fun given => do
    match naming given, given.operands with
    | .error text, _ => complain c text
    | _, [] => tryHelp c (Octets.say "missing operand")
    | _, [file] => tryHelp c (Octets.say "missing operand after " ++ quoted file)
    | .ok names, file :: marks =>
      let text ← readNamed c Files.endless file
      match text, steps 0 (counted marks) with
      | .error error, _ =>
        complain c (Octets.say "cannot open " ++ quoted file ++
          Octets.say s!" for reading: {error.reason}")
      | _, .error text => complain c text
      | .ok text, .ok (found, warnings) =>
        for warning in warnings do tell (c.name ++ ':' :: ' ' :: warning ++ ['\n'])
        let (ended, s) := (cutAll (given.has 'μ') found).run.run { lines := Octets.partsTo '\n' text }
        let tells := !given.has 's' && !given.has 'q'
        let used ← writeAll c names tells (given.has 'z') 0 s.found.reverse
        if let .error (.wrong text) := ended then
          complain c text
          unless given.has 'k' do
            for name in used do
              if let .ok files := (← get).files.unlink c.here (pathOf name) then
                modify ({ · with files })

end SvelteTransform.Sandbox.Tools.Sections
