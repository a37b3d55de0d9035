import SvelteTransform.Sandbox.Tools.Listing

/-! Programs that go through two sorted files at once. That they are sorted is checked only where
it has made a difference, if nothing else is asked for. -/
namespace SvelteTransform.Sandbox.Tools

inductive OrderCheck where
  | always
  | ifUnpaired
  | never
  deriving DecidableEq, Repr

def orderCheckOf (given : Given) : OrderCheck :=
  match (given.options.reverse.find? fun (c, _) => c = '+' || c = '_').map (·.1) with
  | some '+' => .always
  | some _ => .never
  | none => .ifUnpaired

def bodies (separator : Char) (text : Octets) : List Octets :=
  let parts := Path.cutAt separator text
  if parts.getLast? = some [] then parts.dropLast else parts

def withTwo (c : Call) (given : Given) (body : Octets → Octets → Running Unit) : Running Unit := do
  match given.operands with
  | [] => missingOperand c
  | [only] => tryHelp c (Octets.say "missing operand after " ++ quoted only)
  | [a, b] => body a b
  | _ :: _ :: extra :: _ => tryHelp c (Octets.say "extra operand " ++ quoted extra)

def readTwo (c : Call) (a b : Octets) (body : Octets → Octets → Running Unit) : Running Unit := do
  match ← readNamed c Files.endless a with
  | .error error => complainOf c a error
  | .ok first =>
    match ← readNamed c Files.endless b with
    | .error error => complainOf c b error
    | .ok second => body first second

namespace Common

structure State where
  printed : List Octets := []
  counts : Nat × Nat × Nat := (0, 0, 0)
  unpaired : Bool := false
  wrong : List Nat := []
  isOver : Bool := false

structure Side where
  taken : List Octets
  left : List Octets

def State.check (check : OrderCheck) (file : Nat) (before after : Octets) (s : State) : State :=
  if s.isOver || s.wrong.contains file || !(after < before : Bool) then s
  else match check with
    | .never => s
    | .always => { s with wrong := file :: s.wrong, isOver := true }
    | .ifUnpaired => if s.unpaired then { s with wrong := file :: s.wrong } else s

def Side.step (check : OrderCheck) (file : Nat) (side : Side) (s : State) : Side × State :=
  match side.left, side.taken with
  | next :: left, taken =>
    let s := match taken with
      | before :: _ => s.check check file before next
      | [] => s
    (⟨next :: taken.take 1, left⟩, s)
  | [], last :: before :: _ => (⟨[], []⟩, s.check check file before last)
  | [], _ => (⟨[], []⟩, s)

def Side.current (side : Side) : Option Octets := side.taken.head?

def run (check : OrderCheck) (row : Nat → Octets → Octets) :
    (fuel : Nat) → Side → Side → State → State
  | 0, _, _, s => s
  | fuel + 1, a, b, s =>
    if s.isOver then s
    else match a.current, b.current with
      | none, none => s
      | some x, some y =>
        let (n, m, k) := s.counts
        if x = y then
          let s := { s with printed := row 3 x :: s.printed, counts := (n, m, k + 1) }
          let (b, s) := b.step check 2 s
          let (a, s) := a.step check 1 s
          run check row fuel a b s
        else if x < y then
          let s := { s with printed := row 1 x :: s.printed, counts := (n + 1, m, k), unpaired := true }
          let (a, s) := a.step check 1 s
          run check row fuel a b s
        else
          let s := { s with printed := row 2 y :: s.printed, counts := (n, m + 1, k), unpaired := true }
          let (b, s) := b.step check 2 s
          run check row fuel a b s
      | some x, none =>
        let (n, m, k) := s.counts
        let s := { s with printed := row 1 x :: s.printed, counts := (n + 1, m, k), unpaired := true }
        let (a, s) := a.step check 1 s
        run check row fuel a b s
      | none, some y =>
        let (n, m, k) := s.counts
        let s := { s with printed := row 2 y :: s.printed, counts := (n, m + 1, k), unpaired := true }
        let (b, s) := b.step check 2 s
        run check row fuel a b s

end Common

def comm (c : Call) : Running Unit :=
  let options : Options := {
    flags := "123z+_T", valued := "D"
    long := [("check-order", '+'), ("nocheck-order", '_'), ("output-delimiter", 'D'),
      ("total", 'T'), ("zero-terminated", 'z')] }
  withOptions c options fun given => withTwo c given fun a b => readTwo c a b fun first second => do
    let separator := if given.has 'z' then '\x00' else '\n'
    let between := match given.value? 'D' with
      | some [] => ['\x00']
      | some text => text
      | none => ['\t']
    let isShown (column : Nat) : Bool := !given.has (Nat.digitChar column)
    let row (column : Nat) (line : Octets) : Octets :=
      if !isShown column then []
      else
        let before := (List.range (column - 1)).filter fun i => isShown (i + 1)
        (before.map fun _ => between).flatten ++ line ++ [separator]
    let check := orderCheckOf given
    let lines := bodies separator first
    let others := bodies separator second
    let (x, s) := (⟨[], lines⟩ : Common.Side).step check 1 {}
    let (y, s) := (⟨[], others⟩ : Common.Side).step check 2 s
    let s := Common.run check row (lines.length + others.length + 2) x y s
    print s.printed.reverse.flatten
    if !s.isOver && given.has 'T' then
      let (n, m, k) := s.counts
      let number (n : Nat) : Octets := Octets.ofInt n ++ between
      print (number n ++ number m ++ number k ++ Octets.say "total" ++ [separator])
    for file in s.wrong.reverse do
      complain c (Octets.say s!"file {file} is not in sorted order")
    if s.wrong != [] && !s.isOver then complain c (Octets.say "input is not in sorted order")

namespace Joining

structure Line where
  text : Octets
  fields : List Octets

inductive Separator where
  | blanks
  | character (c : Char)
  | none

def Separator.fields (s : Separator) (text : Octets) : List Octets :=
  match s with
  | .character c => Path.cutAt c text
  | .none => [text]
  | .blanks =>
    let rec go : (fuel : Nat) → Octets → List Octets
      | 0, _ => []
      | fuel + 1, text =>
        let text := text.dropWhile Octets.isSpace
        let field := text.takeWhile (!Octets.isSpace ·)
        if field = [] then [] else field :: go fuel (text.drop field.length)
    go (text.length + 1) text

inductive Shown where
  | key
  | field (file place : Nat)
  deriving DecidableEq, Repr

structure Manner where
  separator : Separator := .blanks
  places : Nat × Nat := (0, 0)
  folds : Bool := false
  check : OrderCheck := .ifUnpaired
  pairs : Bool := true
  unpaired : List Nat := []
  filler : Octets := []
  shown : Option (List Shown) := none
  auto : Bool := false
  lineEnd : Char := '\n'

def Manner.place (m : Manner) (file : Nat) : Nat := if file = 1 then m.places.1 else m.places.2

def Manner.key (m : Manner) (file : Nat) (line : Line) : Octets :=
  (line.fields[m.place file]?).getD []

def Manner.compare (m : Manner) (a b : Octets) : Ordering :=
  let shape (text : Octets) : Octets := if m.folds then text.map Char.toUpper else text
  if shape a < shape b then .lt else if shape b < shape a then .gt else .eq

def Manner.row (m : Manner) (a b : Option Line) : Octets :=
  let field (line : Option Line) (place : Nat) : Octets :=
    match (line.bind (·.fields[place]?)).getD [] with
    | [] => m.filler
    | text => text
  let key := match a with
    | some _ => field a m.places.1
    | none => field b m.places.2
  let others (line : Option Line) (place : Nat) : List Octets :=
    ((line.map (·.fields)).getD []).zipIdx.filterMap fun (text, i) =>
      if i = place then none else some (if text = [] then m.filler else text)
  let parts := match m.shown with
    | some shown => shown.map fun
      | .key => key
      | .field 1 place => field a place
      | .field _ place => field b place
    | none => key :: others a m.places.1 ++ others b m.places.2
  let between := match m.separator with
    | .blanks => [' ']
    | .character c => [c]
    | .none => ['\n']
  between.intercalate parts ++ [m.lineEnd]

structure Side where
  file : Nat
  name : Octets
  next : Nat := 1
  before : Option Line := none
  left : List Line

structure State where
  first : Side
  second : Side
  printed : List Octets := []
  unpaired : Bool := false
  complaints : List (Nat × Octets) := []
  isOver : Bool := false

def State.side (s : State) (file : Nat) : Side := if file = 1 then s.first else s.second

def advance (m : Manner) (file : Nat) (s : State) : Option Line × State :=
  let side := s.side file
  match side.left with
  | [] => (none, s)
  | line :: left =>
    let isWrong := m.check != .never && (m.check = .always || s.unpaired) &&
      s.complaints.all (·.1 != file) &&
      side.before.any fun before => m.compare (m.key file before) (m.key file line) = .gt
    let s := if isWrong && !s.isOver then
        { s with
          complaints := (file, side.name ++ Octets.say s!":{side.next}: is not sorted: " ++ line.text) ::
            s.complaints
          isOver := m.check = .always }
      else s
    let side := { side with left, next := side.next + 1, before := some line }
    (some line, if file = 1 then { s with first := side } else { s with second := side })

def sameKey (m : Manner) (file : Nat) (key : Octets) :
    (fuel : Nat) → List Line → State → List Line × Option Line × State
  | 0, found, s => (found.reverse, none, s)
  | fuel + 1, found, s =>
    match advance m file s with
    | (none, s) => (found.reverse, none, s)
    | (some line, s) =>
      if m.compare (m.key file line) key = .eq then sameKey m file key fuel (line :: found) s
      else (found.reverse, some line, s)

def rest (m : Manner) (file : Nat) : (fuel : Nat) → State → State
  | 0, s => s
  | fuel + 1, s =>
    match advance m file s with
    | (none, s) => s
    | (some line, s) =>
      let row := if file = 1 then m.row (some line) none else m.row none (some line)
      let shows := m.unpaired.contains file
      let s := if shows && !s.isOver then { s with printed := row :: s.printed } else s
      rest m file fuel s

def run (m : Manner) : (fuel : Nat) → Option Line → Option Line → State → State
  | 0, _, _, s => s
  | fuel + 1, some a, some b, s =>
    if s.isOver then s
    else
      let alone (file : Nat) (row : Octets) (s : State) : State :=
        { s with
          printed := if m.unpaired.contains file then row :: s.printed else s.printed }
      match m.compare (m.key 1 a) (m.key 2 b) with
      | .lt =>
        let s := alone 1 (m.row (some a) none) s
        let (next, s) := advance m 1 s
        run m fuel next (some b) { s with unpaired := true }
      | .gt =>
        let s := alone 2 (m.row none (some b)) s
        let (next, s) := advance m 2 s
        run m fuel (some a) next { s with unpaired := true }
      | .eq =>
        let key := m.key 2 b
        let (mine, nextA, s) := sameKey m 1 key (s.first.left.length + 1) [a] s
        let (theirs, nextB, s) := sameKey m 2 key (s.second.left.length + 1) [b] s
        let rows := mine.flatMap fun a => theirs.map fun b => m.row (some a) (some b)
        let s := if m.pairs then { s with printed := rows.reverse ++ s.printed } else s
        run m fuel nextA nextB s
  | _, a, b, s =>
    if s.isOver then s
    else
      let checks := m.check != .never
      let tail (file : Nat) (line : Option Line) (other : Option Line) (s : State) : State :=
        match line with
        | none => s
        | some line =>
          let shows := m.unpaired.contains file
          if !(shows || checks) then s
          else
            let row := if file = 1 then m.row (some line) none else m.row none (some line)
            let s := if shows then { s with printed := row :: s.printed } else s
            let s := { s with unpaired := s.unpaired || other.isSome }
            rest m file ((s.side file).left.length + 1) s
      tail 2 b a (tail 1 a b s)

def shown? (text : Octets) : Except Octets (List Shown) := do
  let parts := (text.splitBy fun a b => (a = ',' || Octets.isBlank a) = (b = ',' || Octets.isBlank b))
  (parts.filter fun part => !(part.head?.any fun c => c = ',' || Octets.isBlank c)).mapM fun part =>
    match part with
    | ['0'] => .ok Shown.key
    | '1' :: '.' :: digits | '2' :: '.' :: digits =>
      if Octets.isNumber digits && 0 < Octets.natural digits then
        .ok (Shown.field (if part.head? = some '1' then 1 else 2) (Octets.natural digits - 1))
      else .error (Octets.say "invalid field number: " ++ quoted digits)
    | '0' :: _ => .error (Octets.say "invalid field specifier: " ++ quoted part)
    | _ :: '.' :: _ =>
      .error (Octets.say "invalid file number in field spec: " ++ quoted part)
    | part => .error (Octets.say "invalid field specifier: " ++ quoted part)

def mannerOf (given : Given) : Except Octets Manner :=
  given.options.foldlM (fun (m : Manner) (option : Char × Octets) =>
    let (letter, value) := option
    let place : Except Octets Nat :=
      if Octets.isNumber value && 0 < Octets.natural value then .ok (Octets.natural value - 1)
      else .error (Octets.say "invalid field number: " ++ quoted value)
    let file : Except Octets Nat :=
      if value = ['1'] || value = ['2'] then .ok (Octets.natural value)
      else .error (Octets.say "invalid field number: " ++ quoted value)
    match letter with
    | '1' => do return { m with places := (← place, m.places.2) }
    | '2' => do return { m with places := (m.places.1, ← place) }
    | 'j' => do return { m with places := (← place, ← place) }
    | 'a' => do return { m with unpaired := (← file) :: m.unpaired }
    | 'v' => do return { m with unpaired := (← file) :: m.unpaired, pairs := false }
    | 'e' => .ok { m with filler := value }
    | 'i' => .ok { m with folds := true }
    | 'z' => .ok { m with lineEnd := '\x00' }
    | '+' => .ok { m with check := .always }
    | '_' => .ok { m with check := .never }
    | 'o' =>
      if value = "auto".toList then .ok { m with auto := true }
      else do return { m with shown := some (m.shown.getD [] ++ (← shown? value)) }
    | 't' => match value with
      | [] => .ok { m with separator := .none }
      | [c] => .ok { m with separator := .character c }
      | ['\\', '0'] => .ok { m with separator := .character '\x00' }
      | value => .error (Octets.say "multi-character tab " ++ quoted value)
    | _ => .ok m) {}

end Joining

def join (c : Call) : Running Unit :=
  let options : Options := {
    flags := "iz+_h", valued := "12javeot"
    long := [("ignore-case", 'i'), ("check-order", '+'), ("nocheck-order", '_'), ("header", 'h'),
      ("zero-terminated", 'z')] }
  withOptions c options fun given => do
    match Joining.mannerOf given with
    | .error text => complain c text
    | .ok m => withTwo c given fun a b => readTwo c a b fun first second => do
      let lines (text : Octets) : List Joining.Line :=
        (bodies m.lineEnd text).map fun line => ⟨line, m.separator.fields line⟩
      let mine := lines first
      let theirs := lines second
      let count (lines : List Joining.Line) : Nat := (lines.head?.map (·.fields.length)).getD 0
      let fields (file place n : Nat) : List Joining.Shown :=
        ((List.range n).filter (· != place)).map (.field file)
      let m := if m.auto then
          { m with shown := some (.key :: fields 1 m.places.1 (count mine) ++
              fields 2 m.places.2 (count theirs)) }
        else m
      let header := given.has 'h'
      if header && !(mine.isEmpty && theirs.isEmpty) then print (m.row mine.head? theirs.head?)
      let skip (lines : List Joining.Line) : List Joining.Line := if header then lines.tail else lines
      let start := if header then 2 else 1
      let s : Joining.State := {
        first := { file := 1, name := a, next := start, left := skip mine }
        second := { file := 2, name := b, next := start, left := skip theirs } }
      let (x, s) := Joining.advance m 1 s
      let (y, s) := Joining.advance m 2 s
      let s := Joining.run m (mine.length + theirs.length + 2) x y s
      print s.printed.reverse.flatten
      for (_, text) in s.complaints.reverse do complain c text
      if !s.complaints.isEmpty && !s.isOver then complain c (Octets.say "input is not in sorted order")

namespace Pairs

def ordered (pairs : List (Octets × Octets)) (words : List Octets) : (fuel : Nat) →
    (ready : List Octets) → (waiting : List (Octets × Nat)) → List Octets
  | 0, _, _ => []
  | _, [], _ => []
  | fuel + 1, word :: ready, waiting =>
    let after := ((pairs.filter (·.1 = word)).map (·.2)).reverse
    let (waiting, freed) := after.foldl (fun (waiting, freed) next =>
      let left := (waiting.lookup next).getD 0 - 1
      let waiting := waiting.map fun (w, n) => if w = next then (w, left) else (w, n)
      (waiting, if left = 0 then freed ++ [next] else freed)) (waiting, ([] : List Octets))
    word :: ordered pairs words fuel (ready ++ freed) waiting

end Pairs

def tsort (c : Call) : Running Unit :=
  withOptions c { flags := "" } fun given => do
    match given.operands with
    | _ :: extra :: _ => tryHelp c (Octets.say "extra operand " ++ quoted extra)
    | operands =>
      let file := operands.headD ['-']
      match ← readNamed c Files.endless file with
      | .error error => complainOf c file error
      | .ok text =>
        let tokens := (text.splitBy fun a b => Octets.isSpace a = Octets.isSpace b).filter
          fun part => !(part.head?.any Octets.isSpace)
        if tokens.length % 2 = 1 then
          complain c (file ++ Octets.say ": input contains an odd number of tokens")
        else
          let rec paired : List Octets → List (Octets × Octets)
            | a :: b :: rest => (a, b) :: paired rest
            | _ => []
          let pairs := paired tokens
          let links := pairs.filter fun (a, b) => a != b
          let words := (tokens.mergeSort fun a b => !(b < a : Bool)).eraseDups
          let waiting := words.map fun w => (w, links.countP (·.2 = w))
          let ready := (waiting.filter (·.2 = 0)).map (·.1)
          let order := Pairs.ordered links words (words.length + 1) ready waiting
          for word in order do print (word ++ ['\n'])
          let left := words.filter (!order.contains ·)
          if left != [] then
            complain c (file ++ Octets.say ": input contains a loop:")
            for word in left do tell (c.name ++ Octets.say ": " ++ word ++ ['\n'])
            for word in left do print (word ++ ['\n'])

end SvelteTransform.Sandbox.Tools
