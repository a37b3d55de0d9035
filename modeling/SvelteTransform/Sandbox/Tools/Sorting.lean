import SvelteTransform.Sandbox.Tools.Text
import SvelteTransform.Sandbox.Tools.Listing

/-! Lines in order. A key is a part of a line together with a way to compare such parts; lines whose
keys are all equal are compared as a whole. -/
namespace SvelteTransform.Sandbox.Tools.Sorting

structure Quantity where
  negative : Bool
  whole : Nat
  part : Octets

namespace Quantity

def of (text : Octets) : Quantity :=
  let text := text.dropWhile Octets.isBlank
  let negative := text.head? = some '-'
  let text := if negative then text.tail else text
  let whole := text.takeWhile Octets.isDigit
  let part := match text.drop whole.length with
    | '.' :: rest => ((rest.takeWhile Octets.isDigit).reverse.dropWhile (· = '0')).reverse
    | _ => []
  { negative, whole := Octets.natural whole, part }

def isZero (q : Quantity) : Bool := q.whole = 0 && q.part = []

def compareSizes (a b : Quantity) : Ordering :=
  (compareOfLessAndEq a.whole b.whole).then (compareOfLessAndEq a.part b.part)

def compare (a b : Quantity) : Ordering :=
  match a.negative && !a.isZero, b.negative && !b.isZero with
  | true, true => compareSizes b a
  | true, false => .lt
  | false, true => .gt
  | false, false => compareSizes a b

end Quantity

def unitOf (text : Octets) : Int :=
  let text := text.dropWhile Octets.isBlank
  let negative := text.head? = some '-'
  let text := if negative then text.tail else text
  let whole := text.takeWhile Octets.isDigit
  let rest := text.drop whole.length
  let (part, rest) := match rest with
    | '.' :: rest => (rest.takeWhile Octets.isDigit, rest.dropWhile Octets.isDigit)
    | rest => ([], rest)
  if (whole ++ part).all (· = '0') then 0
  else
    let unit : Int := match rest.head? with
      | some 'k' => 1
      | some c => (("KMGTPEZYRQ".toList.idxOf? c).map fun i => (i + 1 : Int)).getD 0
      | none => 0
    if negative then -unit else unit

inductive Measure where
  | absent
  | undefined
  | infinite (negative : Bool)
  | finite (mantissa : Int) (exponent : Int)

namespace Measure

def of (text : Octets) : Measure :=
  let text := text.dropWhile Octets.isSpace
  let (negative, body) := match text with
    | '-' :: rest => (true, rest)
    | '+' :: rest => (false, rest)
    | rest => (false, rest)
  let lowered := body.map Char.toLower
  if "inf".toList.isPrefixOf lowered then .infinite negative
  else if "nan".toList.isPrefixOf lowered then .undefined
  else
    let whole := body.takeWhile Octets.isDigit
    let rest := body.drop whole.length
    let (part, rest) := match rest with
      | '.' :: rest => (rest.takeWhile Octets.isDigit, rest.dropWhile Octets.isDigit)
      | rest => ([], rest)
    if whole ++ part = [] then .absent
    else
      let exponent : Int := match rest with
        | 'e' :: rest | 'E' :: rest =>
          let (below, digits) := match rest with
            | '-' :: digits => (true, digits)
            | '+' :: digits => (false, digits)
            | digits => (false, digits)
          let n : Int := Octets.natural (digits.takeWhile Octets.isDigit)
          if below then -n else n
        | _ => 0
      let n : Int := Octets.natural (whole ++ part)
      .finite (if negative then -n else n) (exponent - part.length)

def compareFinite (m : Int) (d : Int) (n : Int) (e : Int) : Ordering :=
  let sign (k : Int) : Int := if k < 0 then -1 else if k = 0 then 0 else 1
  if sign m != sign n then compareOfLessAndEq (sign m) (sign n)
  else if m = 0 then .eq
  else
    let top (k place : Int) : Int := place + (Nat.toDigits 10 k.natAbs).length
    let sizes :=
      if top m d != top n e then compareOfLessAndEq (top m d) (top n e)
      else
        let low := min d e
        compareOfLessAndEq (m.natAbs * Nat.pow 10 (d - low).toNat) (n.natAbs * Nat.pow 10 (e - low).toNat)
    if m < 0 then sizes.swap else sizes

def compare (a b : Measure) : Ordering :=
  let rank : Measure → Nat
    | absent => 0
    | undefined => 1
    | infinite true => 2
    | finite .. => 3
    | infinite false => 4
  match a, b with
  | finite m d, finite n e => compareFinite m d n e
  | a, b => compareOfLessAndEq (rank a) (rank b)

end Measure

def monthOf (text : Octets) : Nat :=
  let name := ((text.dropWhile Octets.isBlank).take 3).map Char.toUpper
  let months := ["JAN", "FEB", "MAR", "APR", "MAY", "JUN", "JUL", "AUG", "SEP", "OCT", "NOV", "DEC"]
  ((months.idxOf? (String.ofList name)).map (· + 1)).getD 0

inductive Kind where
  | text
  | number
  | general
  | withUnit
  | month
  | version
  deriving DecidableEq

structure Manner where
  kinds : List Char := []
  folds : Bool := false
  reversed : Bool := false
  skipsBefore : Bool := false
  skipsInEnd : Bool := false
  dictionary : Bool := false
  printable : Bool := false

namespace Manner

def withLetter? (m : Manner) (letter : Char) (start stop : Bool) : Option Manner :=
  match letter with
  | 'b' => some { m with
      skipsBefore := m.skipsBefore || start, skipsInEnd := m.skipsInEnd || stop }
  | 'd' => some { m with dictionary := true }
  | 'f' => some { m with folds := true }
  | 'i' => some { m with printable := true }
  | 'r' => some { m with reversed := true }
  | c => if ['g', 'h', 'M', 'n', 'R', 'V'].contains c then
      some { m with kinds := if m.kinds.contains c then m.kinds else c :: m.kinds } else none

def kind (m : Manner) : Kind :=
  if m.kinds.contains 'n' then .number else if m.kinds.contains 'g' then .general
  else if m.kinds.contains 'h' then .withUnit else if m.kinds.contains 'M' then .month
  else if m.kinds.contains 'V' then .version else .text

def isPlain (m : Manner) : Bool :=
  m.kinds = [] && !m.folds && !m.skipsBefore && !m.skipsInEnd && !m.dictionary && !m.printable

def conflict? (m : Manner) : Option Octets :=
  let numeric := m.kinds.filter (['g', 'h', 'M', 'n'].contains ·)
  let other := m.kinds.contains 'R' || m.kinds.contains 'V' || m.dictionary || m.printable
  if 1 < numeric.length + (if other then 1 else 0) then
    some <| "dfghiMnRV".toList.filter fun c => m.kinds.contains c ||
      (c = 'd' && m.dictionary) || (c = 'f' && m.folds) ||
      (c = 'i' && m.printable && !m.dictionary)
  else none

def shape (m : Manner) (text : Octets) : Octets :=
  let text := if m.dictionary then
      text.filter fun c => Octets.isBlank c || (Octets.isNamePart c && c != '_')
    else if m.printable then text.filter fun c => ' ' ≤ c && c ≤ '~' else text
  if m.folds then text.map Char.toUpper else text

def compare (m : Manner) (a b : Octets) : Ordering :=
  let found : Ordering := match m.kind with
    | .text => compareOfLessAndEq (m.shape a) (m.shape b)
    | .number => (Quantity.of a).compare (.of b)
    | .general => (Measure.of a).compare (.of b)
    | .withUnit =>
      (compareOfLessAndEq (unitOf a) (unitOf b)).then ((Quantity.of a).compare (.of b))
    | .month => compareOfLessAndEq (monthOf a) (monthOf b)
    | .version => Versions.compare a b
  if m.reversed then found.swap else found

end Manner

structure Key where
  start : Nat × Nat := (0, 0)
  stop : Option (Nat × Nat) := none
  manner : Manner := {}

namespace Key

def afterField (separator : Option Char) (text : Octets) : Octets :=
  match separator with
  | some c => text.dropWhile (· != c)
  | none => (text.dropWhile Octets.isBlank).dropWhile (!Octets.isBlank ·)

def fromStart (key : Key) (separator : Option Char) (line : Octets) : Octets :=
  let rest := (List.range key.start.1).foldl (fun rest _ =>
    let rest := afterField separator rest
    if separator.isSome then rest.tail else rest) line
  let rest := if key.manner.skipsBefore then rest.dropWhile Octets.isBlank else rest
  rest.drop key.start.2

def fromStop (key : Key) (separator : Option Char) (line : Octets) : Octets :=
  match key.stop with
  | none => []
  | some (fields, characters) =>
    let fields := if characters = 0 then fields + 1 else fields
    let rest := (List.range fields).foldl (fun rest i =>
      let rest := afterField separator rest
      if separator.isSome && (i + 1 < fields || characters != 0) then rest.tail else rest) line
    if characters = 0 then rest
    else (if key.manner.skipsInEnd then rest.dropWhile Octets.isBlank else rest).drop characters

def of (key : Key) (separator : Option Char) (line : Octets) : Octets :=
  let rest := key.fromStart separator line
  rest.take (rest.length - (key.fromStop separator line).length)

def count (what : String) (text : Octets) : Except Octets (Nat × Octets) :=
  let digits := text.takeWhile Octets.isDigit
  if digits = [] then
    .error (Octets.say s!"{what}: invalid count at start of " ++ quoted text)
  else .ok (Octets.natural digits, text.drop digits.length)

def read (text : Octets) : Except Octets Key := do
  let bad {α : Type} (what : String) : Except Octets α :=
    .error (Octets.say s!"{what}: invalid field specification " ++ quoted text)
  let letters (start stop : Bool) (m : Manner) (rest : Octets) : Manner × Octets :=
    let known := rest.takeWhile fun c => (m.withLetter? c start stop).isSome
    (known.foldl (fun m c => (m.withLetter? c start stop).getD m) m, rest.drop known.length)
  let (field, rest) ← count "invalid number at field start" text
  if field = 0 then bad "field number is zero"
  let (character, rest) ← match rest with
    | '.' :: rest => do
      let (n, rest) ← count "invalid number after '.'" rest
      if n = 0 then bad "character offset is zero"
      pure (n - 1, rest)
    | rest => pure (0, rest)
  let (manner, rest) := letters true false {} rest
  match rest with
  | ',' :: rest =>
    let (last, rest) ← count "invalid number after ','" rest
    if last = 0 then bad "field number is zero"
    let (stop, rest) ← match rest with
      | '.' :: rest => count "invalid number after '.'" rest
      | rest => pure (0, rest)
    let (manner, rest) := letters false true manner rest
    if rest != [] then bad "stray character in field spec"
    return ⟨(field - 1, character), some (last - 1, stop), manner⟩
  | rest =>
    if rest != [] then bad "stray character in field spec"
    return ⟨(field - 1, character), none, manner⟩

end Key

structure Order where
  keys : List Key
  separator : Option Char
  reversed : Bool
  keysOnly : Bool

structure Row where
  line : Octets
  keys : List Octets

namespace Order

def row (o : Order) (line : Octets) : Row := ⟨line, o.keys.map (·.of o.separator line)⟩

def compareKeys (o : Order) (a b : Row) : Ordering :=
  (o.keys.zip (a.keys.zip b.keys)).foldl (fun found (key, x, y) =>
    if found = .eq then key.manner.compare x y else found) .eq

def compare (o : Order) (a b : Row) : Ordering :=
  match o.compareKeys a b with
  | .eq =>
    if o.keysOnly && !o.keys.isEmpty then .eq
    else
      let found : Ordering := compareOfLessAndEq a.line b.line
      if o.reversed then found.swap else found
  | found => found

def single (o : Order) (rows : List Row) : List Row :=
  (rows.foldl (fun (kept : List Row) row => match kept with
    | last :: _ => if o.compare last row = .eq then kept else row :: kept
    | [] => [row]) []).reverse

end Order

def settings : Options := {
  flags := "bcCdfghiMmnrRsuVz", valued := "kotSTWP"
  long := [("ignore-leading-blanks", 'b'), ("check", '?'), ("debug", '_'), ("dictionary-order", 'd'),
    ("ignore-case", 'f'), ("general-numeric-sort", 'g'), ("human-numeric-sort", 'h'),
    ("ignore-nonprinting", 'i'), ("key", 'k'), ("merge", 'm'), ("month-sort", 'M'),
    ("numeric-sort", 'n'), ("output", 'o'), ("parallel", 'P'), ("random-sort", 'R'),
    ("reverse", 'r'), ("buffer-size", 'S'), ("sort", 'W'), ("stable", 's'),
    ("field-separator", 't'), ("temporary-directory", 'T'), ("unique", 'u'), ("version-sort", 'V'),
    ("zero-terminated", 'z')] }

def check? (given : Given) : Option Bool :=
  given.options.findSome? fun (letter, value) => match letter with
    | 'c' => some false
    | 'C' => some true
    | '?' => some (value = "quiet".toList || value = "silent".toList)
    | _ => none

def separator? (given : Given) : Except Octets (Option Char) :=
  match given.value? 't' with
  | none => .ok none
  | some [c] => .ok (some c)
  | some [] => .error (Octets.say "empty tab")
  | some ['\\', '0'] => .ok (some '\x00')
  | some value => .error (Octets.say "multi-character tab " ++ quoted value)

def orderOf (given : Given) : Except Octets Order := do
  let general := given.options.foldl (fun (m : Manner) (letter, value) =>
    let letter := if letter = 'W' then
        ([("general-numeric", 'g'), ("human-numeric", 'h'), ("month", 'M'), ("numeric", 'n'),
          ("random", 'R'), ("version", 'V')].lookup (String.ofList value)).getD letter
      else letter
    (m.withLetter? letter true true).getD m) {}
  let keys ← (given.options.filter (·.1 = 'k')).mapM fun (_, text) => Key.read text
  let separator ← separator? given
  let keys := keys.map fun key =>
    if key.manner.isPlain && !key.manner.reversed then { key with manner := general } else key
  let keys := if keys.isEmpty && !general.isPlain then [{ manner := general }] else keys
  for key in keys do
    if let some letters := key.manner.conflict? then
      throw (Octets.say "options '-" ++ letters ++ Octets.say "' are incompatible")
  return { keys, separator, reversed := general.reversed, keysOnly := given.has 's' || given.has 'u' }

end Sorting

open Sorting in
def sort (c : Call) : Running Unit :=
  withOptions c settings (fun given => do
    match orderOf given with
    | .error text => complain c text 2
    | .ok order =>
      let order := if order.keys.isEmpty && given.has 'u' then { order with keys := [{
          manner := { reversed := order.reversed } }] } else order
      let lineEnd := if given.has 'z' then '\x00' else '\n'
      let bodies (text : Octets) : List Octets :=
        let parts := Path.cutAt lineEnd text
        if parts.getLast? = some [] then parts.dropLast else parts
      let fault (what : String) (file : Octets) (error : SystemError) : Running Unit :=
        match error with
        | .isDirectory => complain c (Octets.say "read failed: " ++ file ++
            Octets.say s!": {error.reason}") 2
        | _ => complain c (Octets.say s!"{what}: " ++ file ++ Octets.say s!": {error.reason}") 2
      match check? given with
      | some quiet =>
        match given.operands with
        | _ :: extra :: _ =>
          complain c (Octets.say "extra operand " ++ quoted extra ++ Octets.say " not allowed with -" ++
            (if quiet then ['C'] else ['c'])) 2
        | operands =>
          let file := operands.headD ['-']
          match ← readNamed c Files.endless file with
          | .error error => fault "open failed" file error
          | .ok text =>
            let rows := (bodies text).map order.row
            let wrong := (rows.zip rows.tail).zipIdx.find? fun ((a, b), _) =>
              match order.compare a b with
              | .gt => true
              | .eq => given.has 'u'
              | .lt => false
            if let some ((_, row), i) := wrong then
              fails 1
              unless quiet do
                tell (c.name ++ Octets.say ": " ++ file ++ Octets.say s!":{i + 2}: disorder: " ++
                  row.line ++ ['\n'])
      | none =>
        let files := if given.operands = [] then [['-']] else given.operands
        let mut found : List (List Row) := []
        for file in files do
          if (← get).status = 0 then
            match ← readNamed c Files.endless file with
            | .error error => fault "cannot read" file error
            | .ok text => found := (bodies text).map order.row :: found
        if (← get).status = 0 then
          let inOrder (a b : Row) : Bool := order.compare a b != .gt
          let sorted := if given.has 'm' then
              found.reverse.foldl (fun before rows => List.merge before rows inOrder) []
            else found.reverse.flatten.mergeSort inOrder
          let kept := if given.has 'u' then order.single sorted else sorted
          let text := kept.flatMap (·.line ++ [lineEnd])
          match given.value? 'o' with
          | none => print text
          | some file =>
            match (← get).files.write c.here (pathOf file) (Octets.toBytes text) with
            | .ok files => modify ({ · with files })
            | .error error => fault "open failed" file error) 2

end SvelteTransform.Sandbox.Tools
