import SvelteTransform.Sandbox.Tools.Text

/-! Numbers as products of primes. Small divisors are tried one by one; larger ones are looked for
in a sequence that comes back to its own values modulo a divisor first. -/
namespace SvelteTransform.Sandbox.Tools.Factors

def powerMod (n : Nat) : (fuel : Nat) → (base exponent : Nat) → Nat
  | 0, _, _ => 1 % n
  | fuel + 1, base, exponent =>
    if exponent = 0 then 1 % n
    else
      let half := powerMod n fuel (base * base % n) (exponent / 2)
      if exponent % 2 = 0 then half else half * base % n

def halved : (fuel : Nat) → Nat → Nat × Nat
  | 0, n => (n, 0)
  | fuel + 1, n =>
    if n % 2 = 0 && n != 0 then
      let (odd, times) := halved fuel (n / 2)
      (odd, times + 1)
    else (n, 0)

def reachesLast (n : Nat) : (times : Nat) → Nat → Bool
  | 0, _ => false
  | times + 1, x => x = n - 1 || reachesLast n times (x * x % n)

def bases : List Nat := [2, 3, 5, 7, 11, 13, 17, 19, 23, 29, 31, 37]

def isLikelyPrime (n : Nat) : Bool :=
  let (odd, times) := halved (n.log2 + 1) (n - 1)
  bases.all fun base =>
    let x := powerMod n (n.log2 + 1) base odd
    x = 1 || reachesLast n times x

def meeting? (n step : Nat) : (fuel : Nat) → (slow fast : Nat) → Option Nat
  | 0, _, _ => none
  | fuel + 1, slow, fast =>
    let next (x : Nat) : Nat := (x * x + step) % n
    let slow := next slow
    let fast := next (next fast)
    let d := Nat.gcd (if slow < fast then fast - slow else slow - fast) n
    if d = n then none
    else if d != 1 then some d
    else meeting? n step fuel slow fast

def patience : Nat := 200000

def large : (fuel : Nat) → Nat → List Nat
  | 0, n => [n]
  | fuel + 1, n =>
    if n = 1 then []
    else if isLikelyPrime n then [n]
    else match [1, 3, 5, 7, 11].findSome? fun step => meeting? n step patience 2 2 with
      | some d => large fuel d ++ large fuel (n / d)
      | none => [n]

def small : (fuel : Nat) → (d n : Nat) → List Nat × Nat
  | 0, _, n => ([], n)
  | fuel + 1, d, n =>
    if n < d * d || 1000 < d then ([], n)
    else if n % d = 0 then
      let (found, left) := small fuel d (n / d)
      (d :: found, left)
    else small fuel (d + (if d = 2 then 1 else 2)) n

def ofNumber (n : Nat) : List Nat :=
  if n < 2 then []
  else
    let (found, left) := small (n.log2 + 1000) 2 n
    found ++ (if left < 1000000 then (if left = 1 then [] else [left])
      else (large (left.log2 + 1) left).mergeSort (· ≤ ·))

def row (exponents : Bool) (n : Nat) : Octets :=
  let found := ofNumber n
  let items := if exponents then found.eraseDups.map fun p =>
      let count := found.count p
      if count = 1 then s!"{p}" else s!"{p}^{count}"
    else found.map toString
  Octets.ofInt n ++ [':'] ++ Octets.say (String.join (items.map (" " ++ ·))) ++ ['\n']

def factor (c : Call) : Running Unit :=
  withOptions c { flags := "h", long := [("exponents", 'h')] } fun given => do
    let words ← if given.operands != [] then pure given.operands
      else do
        let text ← readJoined c []
        let breaks (c : Char) : Char := if c = '\t' || c = '\n' then ' ' else c
        pure ((Path.cutAt ' ' (text.map breaks)).filter (· != []))
    for word in words do
      let body := word.dropWhile (· = ' ')
      let body := if body.head? = some '+' then body.tail else body
      if Octets.isNumber body then print (row (given.has 'h') (Octets.natural body))
      else complain c (quoted word ++ Octets.say " is not a valid positive integer")

def shuffled (items : List Octets) : List Octets :=
  let marks := Octets.noise (2 * items.length)
  let keyed := items.zipIdx.map fun (item, i) =>
    (((marks[2 * i]?).getD ' ').toNat * 256 + ((marks[2 * i + 1]?).getD ' ').toNat, item)
  (keyed.mergeSort fun a b => a.1 ≤ b.1).map (·.2)

def shuffleOptions : Options := {
  flags := "erz", valued := "inoρ"
  long := [("echo", 'e'), ("input-range", 'i'), ("head-count", 'n'), ("output", 'o'),
    ("repeat", 'r'), ("zero-terminated", 'z'), ("random-source", 'ρ')] }

def range? (text : Octets) : Option (List Octets) :=
  let low := text.takeWhile Octets.isDigit
  let high := text.drop (low.length + 1)
  if (text.drop low.length).head? != some '-' || low = [] || !Octets.isNumber high then none
  else
    let first := Octets.natural low
    let last := Octets.natural high
    if last + 1 < first then none
    else some ((List.range (last + 1 - first)).map fun i => Octets.ofInt (first + i : Nat))

def shuf (c : Call) : Running Unit :=
  withOptions c shuffleOptions fun given => do
    let count (letter : Char) : Nat := (given.options.filter (·.1 = letter)).length
    let counts := (given.options.filter (·.1 = 'n')).map (·.2)
    let badRange := (given.options.find? fun (letter, value) =>
      letter = 'i' && (range? value).isNone).map (·.2)
    let allowed := if given.has 'e' then given.operands.length else if given.has 'i' then 0 else 1
    if 1 < count 'i' then complain c (Octets.say "multiple -i options specified")
    else if let some text := badRange then
      complain c (Octets.say "invalid input range: " ++ quoted text)
    else if let some text := counts.find? (!Octets.isNumber ·) then
      complain c (Octets.say "invalid line count: " ++ quoted text)
    else if 1 < count 'o' then complain c (Octets.say "multiple output files specified")
    else if given.has 'e' && given.has 'i' then
      tryHelp c (Octets.say "cannot combine -e and -i options")
    else if let some text := given.operands[allowed]? then
      tryHelp c (Octets.say "extra operand " ++ quoted text)
    else
      let lineEnd := if given.has 'z' then '\x00' else '\n'
      let limit := (counts.map Octets.natural).foldl (fun (best : Option Nat) n =>
        some (best.elim n (min n))) none
      let found : Option (List Octets) ← do
        if given.has 'e' then pure (some given.operands)
        else if let some text := given.value? 'i' then pure (range? text)
        else
          let file := given.operands.headD ['-']
          match ← readNamed c Files.endless file with
          | .error error =>
            complainOf c file error
            pure none
          | .ok text => pure (some ((Octets.partsTo lineEnd text).map fun line =>
              if line.getLast? = some lineEnd then line.dropLast else line))
      if let some items := found then
        let chosen := if given.has 'r' then
            let size := items.length
            (List.range (limit.getD c.patience)).map fun i => (items[i * 7 % size]?).getD []
          else match limit with
            | some n => (shuffled items).take n
            | none => shuffled items
        if given.has 'r' && items = [] && limit != some 0 then
          complain c (Octets.say "no lines to repeat")
        else
          if given.has 'r' && limit.isNone then modify ({ · with cut := true })
          let text := chosen.flatMap (· ++ [lineEnd])
          match given.value? 'o' with
          | none => print text
          | some path =>
            match (← get).files.write c.here (pathOf path) (Octets.toBytes text) with
            | .ok files => modify ({ · with files })
            | .error error => complainOf c path error

end SvelteTransform.Sandbox.Tools.Factors
