import SvelteTransform.Sandbox.Regex
import SvelteTransform.Sandbox.Tools.Text

/-! Programs that give lines another order or another shape. -/
namespace SvelteTransform.Sandbox.Tools

namespace Reversal

def separators (lengthAt : (room : Nat) → (before : Option Char) → Octets → Option Nat) :
    (place : Nat) → (before : Option Char) → Octets → List (Nat × Nat)
  | _, _, [] => []
  | place, before, c :: rest =>
    let later := separators lengthAt (place + 1) (some c) rest
    let room := match later.head? with
      | some (next, _) => next - place
      | none => rest.length + 1
    match lengthAt room before (c :: rest) with
    | some length => (place, length) :: later
    | none => later

def parts (text : Octets) : (start : Nat) → List Nat → List Octets
  | _, [] => [text]
  | start, place :: more =>
    text.take (place - start) :: parts (text.drop (place - start)) place more

def reversed (text : Octets) (found : List (Nat × Nat)) (before : Bool) : Octets :=
  let places := found.map fun (place, length) => if before then place else place + length
  (parts text 0 places).reverse.flatten

end Reversal

def tac (c : Call) : Running Unit :=
  let options : Options := {
    flags := "br", valued := "s"
    long := [("before", 'b'), ("regex", 'r'), ("separator", 's')] }
  withOptions c options fun given => do
    let separator := (given.value? 's').getD ['\n']
    let expression := if given.has 'r' then Regex.ofText? false separator else none
    let literal := if separator = [] then ['\x00'] else separator
    let lengthAt (room : Nat) (before : Option Char) (rest : Octets) : Option Nat :=
      match expression with
      | some r => (r.matchAt false true ⟨if before = none then 0 else 1, before, rest.take room, []⟩).map (·.text.length)
      | none => if literal.length ≤ room && literal.isPrefixOf rest then some literal.length else none
    for file in if given.operands = [] then [['-']] else given.operands do
      match ← readNamed c Files.endless file with
      | .error .isDirectory => complain c (quotedIfWild file ++ Octets.say ": read error: Invalid argument")
      | .error error => complain c (Octets.say "failed to open " ++ quoted file ++
          Octets.say s!" for reading: {error.reason}")
      | .ok text =>
        if separator = ['\n'] && !given.has 'b' && !given.has 'r' then
          print (Octets.lines text).reverse.flatten
        else
          print (Reversal.reversed text (Reversal.separators lengthAt 0 none text) (given.has 'b'))

def rev (c : Call) : Running Unit :=
  withOptions c { flags := "" } fun given => do
    for file in if given.operands = [] then [['-']] else given.operands do
      match ← readNamed c Files.endless file with
      | .error error => complain c (Octets.say "cannot open " ++ file ++
          Octets.say s!": {error.reason}")
      | .ok text =>
        for line in Octets.lines text do
          let (body, lineEnd) := bodyAndEnd line
          print (Octets.ofText (Octets.toText body).reverse ++ lineEnd)

namespace Folding

structure Rule where
  width : Nat := 80
  bytes : Bool := false
  atBlanks : Bool := false

def Rule.after (r : Rule) (column : Nat) (c : Char) : Nat :=
  if r.bytes then column + 1
  else match c with
    | '\x08' => column - 1
    | '\r' => 0
    | '\t' => column + (8 - column % 8)
    | _ => column + 1

def parts (r : Rule) : (fuel : Nat) → (column : Nat) → (current : Octets) → Octets → List Octets
  | 0, _, current, rest => [current.reverse ++ rest]
  | _, _, current, [] => [current.reverse]
  | fuel + 1, column, current, c :: rest =>
    let next := r.after column c
    if next ≤ r.width || current = [] then parts r fuel next (c :: current) rest
    else
      let tail := if r.atBlanks then current.takeWhile (!Octets.isBlank ·) else current
      if r.atBlanks && tail.length < current.length then
        let column := tail.reverse.foldl r.after 0
        (current.drop tail.length).reverse :: parts r fuel column tail (c :: rest)
      else current.reverse :: parts r fuel 0 [] (c :: rest)

end Folding

def fold (c : Call) : Running Unit :=
  let options : Options := {
    flags := "sb", valued := "w", optional := "0123456789"
    long := [("width", 'w'), ("spaces", 's'), ("bytes", 'b')] }
  withOptions c options fun given => do
    let width := given.options.foldl (fun width (letter, value) =>
      if letter = 'w' then value else if Octets.isDigit letter then letter :: value else width)
      (Octets.say "80")
    let wrong (reason : String) : Running Unit :=
      complain c (Octets.say "invalid number of columns: " ++ quoted width ++ Octets.say reason)
    if !Octets.isNumber width then wrong ""
    else if Octets.natural width = 0 then wrong ": Numerical result out of range"
    else
      let rule : Folding.Rule :=
        ⟨Octets.natural width, given.has 'b', given.has 's'⟩
      for (_, text) in ← readAll c Files.endless given.operands do
        for line in Octets.lines text do
          let (body, lineEnd) := bodyAndEnd line
          print (['\n'].intercalate (Folding.parts rule (3 * body.length + 3) 0 [] body) ++ lineEnd)

structure TabStops where
  fixed : List Nat := []
  every : Option Nat := none
  fromLast : Bool := false

namespace TabStops

def next? (t : TabStops) (column : Nat) : Option Nat :=
  match t.fixed.find? (column < ·), t.every with
  | some stop, _ => some stop
  | none, some n =>
    let start := if t.fromLast then t.fixed.getLast?.getD 0 else 0
    some (start + n * ((column - start) / n + 1))
  | none, none => none

def read (text : Octets) : Except Octets TabStops := do
  let parts := (text.splitBy fun a b => (a = ',' || Octets.isBlank a) = (b = ',' || Octets.isBlank b)).filter
    fun part => !(part.head?.any fun c => c = ',' || Octets.isBlank c)
  let number (part : Octets) : Except Octets Nat :=
    let rest := part.dropWhile Octets.isDigit
    if rest != [] then .error (Octets.say "tab size contains invalid character(s): " ++ quoted rest)
    else .ok (Octets.natural part)
  let t ← parts.foldlM (fun (t : TabStops) part => do
    match part with
    | '/' :: size => return { t with every := some (← number size) }
    | '+' :: size => return { t with every := some (← number size), fromLast := true }
    | part => return { t with fixed := t.fixed ++ [(← number part)] }) {}
  if t.fixed.contains 0 || t.every = some 0 then throw (Octets.say "tab size cannot be 0")
  if (t.fixed.zip t.fixed.tail).any fun (a, b) => b ≤ a then
    throw (Octets.say "tab sizes must be ascending")
  match t.fixed, t.every with
  | [], none => return { every := some 8 }
  | [n], none => return { every := some n }
  | _, _ => return t

def ofOptions (given : Given) : Except Octets TabStops :=
  let texts := given.options.filterMap fun (letter, value) =>
    if letter = 't' then some value
    else if Octets.isDigit letter then some (letter :: value) else none
  read ([','].intercalate texts)

def expanded (t : TabStops) (initial : Bool) : (column : Nat) → Octets → Octets
  | _, [] => []
  | column, c :: rest =>
    match c with
    | '\n' => c :: expanded t initial 0 rest
    | '\t' =>
      let next := (t.next? column).getD (column + 1)
      List.replicate (next - column) ' ' ++ expanded t initial next rest
    | '\x08' => c :: (if initial then rest else expanded t initial (column - 1) rest)
    | c => c :: (if initial && !Octets.isBlank c then rest else expanded t initial (column + 1) rest)

structure Reader where
  column : Nat := 0
  pending : Octets := []
  beforeStop : Bool := false
  wasBlank : Bool := true

def unexpanded (t : TabStops) (whole : Bool) : (fuel : Nat) → Reader → Octets → Octets
  | 0, r, rest => r.pending ++ rest
  | fuel + 1, r, text =>
    let flushed (pending : Octets) (beforeStop : Bool) : Octets :=
      if 1 < pending.length && beforeStop then '\t' :: pending.tail else pending
    match text with
    | [] => flushed r.pending r.beforeStop
    | c :: rest =>
      let goOn (r : Reader) (shown : Octets) (isBlank : Bool) : Octets :=
        shown ++ (if whole || isBlank then
            unexpanded t whole fuel { r with pending := [], beforeStop := false, wasBlank := isBlank } rest
          else rest)
      if Octets.isBlank c then
        match t.next? r.column with
        | none => flushed r.pending r.beforeStop ++ c :: rest
        | some stop =>
          if c = '\t' then
            let pending := if r.pending = [] then [] else '\t' :: r.pending.tail
            let kept := if r.beforeStop then pending.take 1 else []
            goOn { r with column := stop } (kept ++ [c]) true
          else
            let column := r.column + 1
            if r.wasBlank && column = stop then
              let kept := if r.beforeStop then ['\t'] else []
              goOn { r with column } (kept ++ ['\t']) true
            else
              unexpanded t whole fuel { r with
                column, pending := r.pending ++ [c]
                beforeStop := r.beforeStop || column = stop, wasBlank := true } rest
      else
        let column := if c = '\x08' then r.column - 1 else r.column + 1
        goOn { r with column } (flushed r.pending r.beforeStop ++ [c]) false

end TabStops

def expand (c : Call) : Running Unit :=
  let options : Options := {
    flags := "i", valued := "t", optional := "0123456789"
    long := [("initial", 'i'), ("tabs", 't')] }
  withOptions c options fun given => do
    match TabStops.ofOptions given with
    | .error text => complain c text
    | .ok stops =>
      for (_, text) in ← readAll c Files.endless given.operands do
        for line in Octets.lines text do print (stops.expanded (given.has 'i') 0 line)

def unexpand (c : Call) : Running Unit :=
  let options : Options := {
    flags := "af", valued := "t", optional := "0123456789"
    long := [("all", 'a'), ("first-only", 'f'), ("tabs", 't')] }
  withOptions c options fun given => do
    match TabStops.ofOptions given with
    | .error text => complain c text
    | .ok stops =>
      let whole := (given.has 'a' || given.options.any (·.1 != 'f')) && !given.has 'f'
      for (_, text) in ← readAll c Files.endless given.operands do
        for line in Octets.lines text do
          let (body, lineEnd) := bodyAndEnd line
          print (stops.unexpanded whole (2 * body.length + 2) {} body ++ lineEnd)

end SvelteTransform.Sandbox.Tools
