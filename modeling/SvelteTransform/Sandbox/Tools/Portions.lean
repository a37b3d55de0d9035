import SvelteTransform.Sandbox.Tools.Text

/-! One file cut into many, of so many lines or bytes each, or into so many of them. -/
namespace SvelteTransform.Sandbox.Tools.Portions

structure Naming where
  start : Octets := ['x']
  alphabet : Octets := "abcdefghijklmnopqrstuvwxyz".toList
  length : Nat := 2
  grows : Bool := true
  first : Nat := 0
  ending : Octets := []

def spelled (alphabet : Octets) : (length : Nat) → Nat → Octets
  | 0, _ => []
  | length + 1, n =>
    let size := alphabet.length
    spelled alphabet length (n / size) ++ [(alphabet[n % size]?).getD '?']

def grown (alphabet : Octets) : (fuel : Nat) → (length n : Nat) → Octets
  | 0, length, n => spelled alphabet length n
  | fuel + 1, length, n =>
    let size := alphabet.length
    let room := (size - 1) * Nat.pow size (length - 1)
    if n < room then spelled alphabet length n
    else alphabet.getLast?.toList ++ grown alphabet fuel (length + 1) (n - room)

def Naming.name? (names : Naming) (n : Nat) : Option Octets :=
  let n := n + names.first
  if names.grows then some (names.start ++ grown names.alphabet (n + 1) names.length n ++ names.ending)
  else if Nat.pow names.alphabet.length names.length ≤ n then none
  else some (names.start ++ spelled names.alphabet names.length n ++ names.ending)

def groupsOf {α : Type} (size : Nat) : (fuel : Nat) → List α → List (List α)
  | 0, _ | _, [] => []
  | fuel + 1, items => items.take size :: groupsOf size fuel (items.drop size)

def filled (size : Nat) : (fuel : Nat) → List Octets → (current : Octets) → List Octets
  | 0, _, current => [current]
  | _, [], current => if current = [] then [] else [current]
  | fuel + 1, line :: rest, current =>
    if current.length + line.length ≤ size then filled size fuel rest (current ++ line)
    else if current != [] then current :: filled size fuel (line :: rest) []
    else line.take size :: filled size fuel (line.drop size :: rest) []

def ends (size count : Nat) : List Nat :=
  (List.range count).map fun i => (i + 1) * (size / count) + min (i + 1) (size % count)

def byBytes (count : Nat) (text : Octets) : List Octets :=
  ((0 :: ends text.length count).zip (ends text.length count)).map fun (start, stop) =>
    (text.drop start).take (stop - start)

def byLines (lineEnd : Char) (text : Octets) : (passed : Nat) → List Nat → List Octets
  | _, [] => []
  | _, [_] => [text]
  | passed, stop :: more =>
    let sure := stop - passed - 1
    let here := if stop ≤ passed then []
      else
        let after := (text.drop sure).takeWhile (· != lineEnd)
        text.take (sure + after.length + 1)
    here :: byLines lineEnd (text.drop here.length) (passed + here.length) more

def inTurn (lineEnd : Char) (count : Nat) (text : Octets) : List Octets :=
  let lines := (Octets.partsTo lineEnd text).zipIdx
  (List.range count).map fun i =>
    ((lines.filter fun (_, n) => n % count = i).map (·.1)).flatten

inductive Measure where
  | lines (count : Nat)
  | bytes (count : Nat)
  | linesUpTo (bytes : Nat)
  | portions (kind : Option Char) (only : Option Nat) (count : Nat)

def options : Options := {
  flags := "dxeu", valued := "abCnlt", optional := "νξ"
  long := [("suffix-length", 'a'), ("additional-suffix", 'σ'), ("bytes", 'b'), ("line-bytes", 'C'),
    ("numeric-suffixes", 'ν'), ("hex-suffixes", 'ξ'), ("elide-empty-files", 'e'), ("lines", 'l'),
    ("number", 'n'), ("separator", 't'), ("unbuffered", 'u'), ("verbose", 'β')] }

def numbered : List Octets → List Octets
  | ('-' :: d :: more) :: rest =>
    if Octets.isNumber (d :: more) then ['-', 'l'] :: (d :: more) :: numbered rest
    else ('-' :: d :: more) :: numbered rest
  | argument :: rest => argument :: numbered rest
  | [] => []

abbrev Checked := Except (Octets × Bool)

def positive (what : String) (text : Octets) : Checked Nat :=
  match count? text with
  | some n => if n = 0 then wrong else .ok n
  | none => wrong
where
  wrong : Checked Nat := .error (Octets.say s!"invalid {what}: " ++ quoted text, false)

def portions (text : Octets) : Checked Measure := do
  let (kind, body) := match text with
    | 'l' :: '/' :: rest => (some 'l', rest)
    | 'r' :: '/' :: rest => (some 'r', rest)
    | rest => (none, rest)
  let first := body.takeWhile (· != '/')
  if first.length < body.length then
    let count ← positive "number of chunks" (body.drop (first.length + 1))
    let only ← positive "chunk number" first
    if count < only then throw (Octets.say "invalid chunk number: " ++ quoted first, false)
    return .portions kind (some only) count
  return .portions kind none (← positive "number of chunks" body)

def measure (given : Given) : Checked Measure := do
  let asked := given.options.filter fun (letter, _) => ['b', 'C', 'l', 'n'].contains letter
  let found ← asked.mapM fun (letter, value) => match letter with
    | 'b' => return .bytes (← positive "number of bytes" value)
    | 'C' =>
      let what := if count? value = some 0 then "number of lines" else "number of bytes"
      return .linesUpTo (← positive what value)
    | 'n' => portions value
    | _ => return .lines (← positive "number of lines" value)
  match found with
  | [] => return .lines 1000
  | [one] => return one
  | _ => throw (Octets.say "cannot split in more than one way", true)

def separator (given : Given) : Checked Char := do
  match given.value? 't' with
  | none => return '\n'
  | some [] => throw (Octets.say "empty record separator", false)
  | some ['\\', '0'] => return '\x00'
  | some [c] => return c
  | some text => throw (Octets.say "multi-character separator " ++ quoted text, false)

def needed (size : Nat) : (fuel : Nat) → Nat → Nat
  | 0, _ => 1
  | fuel + 1, n => if n < size then 1 else needed size fuel (n / size) + 1

def naming (given : Given) (m : Measure) : Checked Naming := do
  let start := (given.operands[1]?).getD ['x']
  let ending := (given.value? 'σ').getD []
  if ending.contains '/' then
    throw (Octets.say "invalid suffix " ++ quoted ending ++
      Octets.say ", contains directory separator", true)
  let usual : Naming := { start, ending }
  let names ← given.options.foldlM (fun (names : Naming) (letter, value) => do
    let alphabet := match letter with
      | 'd' | 'ν' => "0123456789".toList
      | 'x' | 'ξ' => "0123456789abcdef".toList
      | _ => names.alphabet
    if (letter = 'ν' || letter = 'ξ') && value != [] then
      let isHex := letter = 'ξ'
      unless value.all (Numeral.isDigitOf (if isHex then 16 else 10)) do
        let kind := if isHex then "hexadecimal" else "numerical"
        throw (quoted value ++ Octets.say s!": invalid start value for {kind} suffix", true)
      return { names with
        alphabet, grows := false, first := Numeral.valueOf (if isHex then 16 else 10) value }
    return { names with alphabet }) usual
  let least ← match m with
    | .portions _ _ count =>
      let last := count - 1 + (if names.first < count then names.first else 0)
      pure (needed names.alphabet.length (last + 1) last)
    | _ => pure 0
  let names := if least = 0 then names else { names with grows := false }
  match given.value? 'a' with
  | none => return { names with length := max 2 least }
  | some text =>
    if !Octets.isNumber text then
      throw (Octets.say "invalid suffix length: " ++ quoted text, false)
    let length := Octets.natural text
    if length = 0 then return { names with length := max 2 least }
    if length < least then
      throw (Octets.say s!"the suffix length needs to be at least {least}", false)
    return { names with length, grows := false }

def cut (m : Measure) (lineEnd : Char) (text : Octets) : List Octets :=
  match m with
  | .lines count => (groupsOf count (text.length + 1) (Octets.partsTo lineEnd text)).map List.flatten
  | .bytes count => groupsOf count (text.length + 1) text
  | .linesUpTo size =>
    filled size (2 * text.length + 2) (Octets.partsTo lineEnd text) []
  | .portions (some 'l') _ count => byLines lineEnd text 0 (ends text.length count)
  | .portions (some _) _ count => inTurn lineEnd count text
  | .portions none _ count => byBytes count text

def writeAll (c : Call) (names : Naming) (tells : Bool) : (place : Nat) → List Octets → Running Unit
  | _, [] => return
  | place, text :: rest => do
    match names.name? place with
    | none => complain c (Octets.say "output file suffixes exhausted")
    | some name =>
      if tells then print (Octets.say "creating file " ++ quoted name ++ ['\n'])
      match (← get).files.write c.here (pathOf name) (Octets.toBytes text) with
      | .error error => complainOf c name error
      | .ok files =>
        modify ({ · with files })
        writeAll c names tells (place + 1) rest

def split (c : Call) : Running Unit :=
  let c := { c with arguments := c.name :: numbered c.operands }
  let known := { options with valued := options.valued ++ "σ", flags := options.flags ++ "β" }
  withOptions c known fun given => do
    let checked : Checked (Measure × Char × Naming) := do
      let m ← measure given
      let lineEnd ← separator given
      if let some text := given.operands[2]? then
        throw (Octets.say "extra operand " ++ quoted text, true)
      return (m, lineEnd, ← naming given m)
    match checked with
    | .error (text, true) => tryHelp c text
    | .error (text, false) => complain c text
    | .ok (m, lineEnd, names) =>
      let file := given.operands.headD ['-']
      match ← readNamed c Files.endless file with
      | .error error =>
        if error = .isDirectory then complainOf c file error
        else complain c (Octets.say "cannot open " ++ quoted file ++
          Octets.say s!" for reading: {error.reason}")
      | .ok text =>
        let found := cut m lineEnd text
        match m with
        | .portions _ (some only) _ => print ((found[only - 1]?).getD [])
        | _ =>
          let found := if given.has 'e' then found.filter (· != []) else found
          writeAll c names (given.has 'β') 0 found

end SvelteTransform.Sandbox.Tools.Portions
