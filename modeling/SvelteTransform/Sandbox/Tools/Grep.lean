import SvelteTransform.Sandbox.Pattern
import SvelteTransform.Sandbox.Regex
import SvelteTransform.Sandbox.Tools.Text

/-! Finding lines in which one of several expressions matches. -/
namespace SvelteTransform.Sandbox.Tools.Grep

structure Sought where
  expressions : List Regex
  folds : Bool
  wholeWords : Bool
  wholeLines : Bool

def isWordPart (c : Option Char) : Bool := c.any Octets.isNamePart

def Sought.accepts (s : Sought) (p : Regex.Place) (m : Regex.Match) : Bool :=
  let after := p.rest.drop m.text.length
  (!s.wholeLines || (p.passed = 0 && after = [])) &&
  (!s.wholeWords || !(isWordPart p.previous || isWordPart after.head?))

def Sought.matchAt (s : Sought) (p : Regex.Place) : Option Regex.Match :=
  let found := (s.expressions.filterMap (·.matchAt s.folds false p)).filter (s.accepts p)
  found.foldl (fun best m => match best with
    | some b => if b.text.length < m.text.length then some m else best
    | none => some m) none

def Sought.search (s : Sought) : (fuel : Nat) → Regex.Place → Option (Regex.Place × Regex.Match)
  | 0, _ => none
  | fuel + 1, p =>
    match s.matchAt p with
    | some m => some (p, m)
    | none =>
      match p.rest with
      | [] => none
      | c :: rest => s.search fuel (p.step c rest)

def start (line : Octets) : Regex.Place := ⟨0, none, line, []⟩

def Sought.holds (s : Sought) (line : Octets) : Bool :=
  (s.search (line.length + 1) (start line)).isSome

def Sought.parts (s : Sought) : (fuel : Nat) → Regex.Place → List (Nat × Octets)
  | 0, _ => []
  | fuel + 1, p =>
    match s.search (p.rest.length + 1) p with
    | none => []
    | some (q, m) =>
      if m.text = [] then
        match q.rest with
        | [] => []
        | c :: rest => s.parts fuel (q.step c rest)
      else (q.passed, m.text) :: s.parts fuel ((q.follow m.text).getD q)

inductive Kind where
  | basic
  | extended
  | fixed
  deriving DecidableEq

def kindOf (given : Given) : Except Octets Kind :=
  given.options.foldlM (fun (kind : Kind) (letter, _) =>
    let other := kind = .extended && letter = 'F' || kind = .fixed && letter = 'E'
    if other then .error (Octets.say "conflicting matchers specified")
    else match letter with
      | 'E' => .ok .extended
      | 'F' => .ok .fixed
      | 'G' => .ok .basic
      | _ => .ok kind) .basic

def expression (kind : Kind) (text : Octets) : Except Octets Regex :=
  let read (extended : Bool) : Except Octets Regex :=
    let isClass := text.length > 3 && text.head? = some '[' && (text.drop 1).head? = some ':' &&
      text.reverse.take 2 = [']', ':']
    if isClass then .error (Octets.say "character class syntax is [[:space:]], not [:space:]")
    else match Regex.ofText? extended text with
      | some r => .ok r
      | none => .error (Octets.say (Regex.fault extended text))
  match kind with
  | .basic => read false
  | .extended => read true
  | .fixed => .ok (text.foldr (fun c r => .both (Regex.exactly c) r) .empty)

def settings : Options := {
  flags := "abcEFGhHiIlLnoqrRsTUuvVwxyzZ|^0123456789", valued := "ABCDdefm+-%~!#", optional := "k"
  long := [("after-context", 'A'), ("basic-regexp", 'G'), ("before-context", 'B'),
    ("binary-files", '!'), ("byte-offset", 'b'), ("context", 'C'), ("color", 'k'), ("colour", 'k'),
    ("count", 'c'), ("devices", 'D'), ("directories", 'd'), ("exclude", '-'),
    ("exclude-dir", '~'), ("extended-regexp", 'E'), ("file", 'f'), ("files-with-matches", 'l'),
    ("files-without-match", 'L'), ("fixed-regexp", 'F'), ("fixed-strings", 'F'),
    ("group-separator", '#'), ("ignore-case", 'i'), ("include", '+'), ("initial-tab", 'T'),
    ("invert-match", 'v'), ("label", '%'), ("line-buffered", 'u'), ("line-number", 'n'),
    ("line-regexp", 'x'), ("max-count", 'm'), ("no-filename", 'h'), ("no-group-separator", '|'),
    ("no-ignore-case", '^'), ("no-messages", 's'), ("null", 'Z'), ("null-data", 'z'),
    ("only-matching", 'o'), ("quiet", 'q'), ("recursive", 'r'),
    ("dereference-recursive", 'R'), ("regexp", 'e'), ("silent", 'q'), ("text", 'a'),
    ("version", 'V'), ("with-filename", 'H'), ("word-regexp", 'w')] }

structure Layout where
  lineEnd : Char := '\n'
  numbers : Bool := false
  offsets : Bool := false
  parts : Bool := false
  before : Nat := 0
  after : Nat := 0
  hasContext : Bool := false
  between : Option Octets := some ['-', '-']
  nullNames : Bool := false

namespace Layout

def label (l : Layout) (title : Option Octets) (mark : Char) (number offset : Nat) : Octets :=
  (match title with
    | some name => name ++ [if l.nullNames then '\x00' else mark]
    | none => []) ++
    (if l.numbers then Octets.ofInt (number : Nat) ++ [mark] else []) ++
    (if l.offsets then Octets.ofInt (offset : Nat) ++ [mark] else [])

end Layout

structure Line where
  number : Nat
  offset : Nat
  body : Octets
  selected : Bool

def marked (select : Octets → Bool) (lineEnd : Char) (most : Option Nat) (after : Nat)
    (text : Octets) : List Line :=
  let rec go : (number offset found trailing : Nat) → List Octets → List Line
    | _, _, _, _, [] => []
    | number, offset, found, trailing, part :: rest =>
      let body := if part.getLast? = some lineEnd then part.dropLast else part
      let full := most.any (· ≤ found)
      if full && trailing = 0 then []
      else
        let selected := select body
        if full && selected then []
        else
          let line : Line := ⟨number, offset, body, selected⟩
          line :: go (number + 1) (offset + part.length) (if selected then found + 1 else found)
            (if full then trailing - 1 else after) rest
  go 1 0 0 0 (Octets.partsTo lineEnd text)

def withContext (l : Layout) (lines : List Line) : List Line :=
  let forward (lines : List Line) (reach : Nat) : List Bool :=
    (lines.foldl (fun (found, left) line =>
      if line.selected then (true :: found, reach) else ((0 < left) :: found, left - 1))
      (([] : List Bool), 0)).1.reverse
  let behind := forward lines l.after
  let ahead := (forward lines.reverse l.before).reverse
  ((lines.zip (behind.zip ahead)).filter fun (_, a, b) => a || b).map (·.1)

def inFile (c : Call) (given : Given) (sought : Sought) (l : Layout) (label : Octets) (titled : Bool)
    (text : Octets) : Running Bool := do
  let most := (given.value? 'm').bind fun n => if Octets.isNumber n then some (Octets.natural n) else none
  let select (body : Octets) : Bool := sought.holds body != given.has 'v'
  let most := if given.has 'q' || given.has 'l' || given.has 'L' then some 1 else most
  let lines := marked select l.lineEnd most l.after text
  let selected := lines.filter (·.selected)
  match given.has 'q', most, selected.getLast? with
  | true, _, some line => needed (.block (line.offset + line.body.length + 1))
  | false, some n, some line =>
    if selected.length = n then needed (.bytes (min text.length (line.offset + line.body.length + 1)))
  | _, _, _ => pure ()
  let title := if titled then some label else none
  let name := label ++ [if l.nullNames then '\x00' else '\n']
  if given.has 'q' then pure ()
  else if given.has 'l' then
    if !selected.isEmpty then print name
  else if given.has 'L' then
    if selected.isEmpty then print name
  else if given.has 'c' then
    let front := match title with
      | some name => name ++ [if l.nullNames then '\x00' else ':']
      | none => []
    print (front ++ Octets.ofInt (selected.length : Nat) ++ ['\n'])
  else
    let isBinary := text.contains '\x00' && l.lineEnd != '\x00' && !given.has 'a' &&
      given.value? '!' != some "text".toList
    if isBinary then
      if !selected.isEmpty then
        tell (c.name ++ Octets.say ": " ++ label ++ Octets.say ": binary file matches\n")
    else if l.parts then
      unless given.has 'v' do
        for line in selected do
          for (place, part) in sought.parts (line.body.length + 1) (start line.body) do
            print (l.label title ':' line.number (line.offset + place) ++ part ++ [l.lineEnd])
    else
      let mut last : Option Nat := none
      for line in withContext l lines do
        if l.hasContext && last.any (· + 1 < line.number) then
          if let some between := l.between then print (between ++ ['\n'])
        last := some line.number
        print (l.label title (if line.selected then ':' else '-') line.number line.offset ++
          line.body ++ [l.lineEnd])
  return !selected.isEmpty

structure Choice where
  included : List Octets
  excluded : List Octets
  leftOut : List Octets

namespace Choice

def matchesAny (patterns : List Octets) (path : Octets) : Bool :=
  let base := ((path.reverse.dropWhile (· = '/')).takeWhile (· != '/')).reverse
  patterns.any fun pattern =>
    let pattern := Pattern.ofMarked (pattern.map (·, true))
    pattern.covers base || pattern.covers path

def takesFile (k : Choice) (path : Octets) : Bool :=
  !matchesAny k.excluded path && (k.included.isEmpty || matchesAny k.included path)

def takesDirectory (k : Choice) (path : Octets) : Bool := !matchesAny k.leftOut path

end Choice

def filesBelow (c : Call) (k : Choice) (follows : Bool) : (fuel : Nat) → (path : Octets) → Inode →
    List Octets
  | 0, _, _ => []
  | fuel + 1, path, directory =>
    (c.files.children directory).flatMap fun (name, inode) =>
      let inner := Octets.ofText name
      let inner := if path = [] then inner
        else if path.getLast? = some '/' then path ++ inner else path ++ '/' :: inner
      match c.files.node? inode with
      | some .directory => if k.takesDirectory inner then filesBelow c k follows fuel inner inode else []
      | some (.file _) | some (.tool _) => if k.takesFile inner then [inner] else []
      | some (.link _) =>
        if !follows then []
        else match c.files.find c.here (pathOf inner) with
          | .ok (.node inode .directory) =>
            if k.takesDirectory inner then filesBelow c k follows fuel inner inode else []
          | .ok (.node _ (.file _)) => if k.takesFile inner then [inner] else []
          | _ => []
      | _ => []

def usage (c : Call) : Running Unit := do
  tell (Octets.say "Usage: " ++ c.name ++ Octets.say " [OPTION]... PATTERNS [FILE]...\n")
  tell (Octets.say "Try '" ++ c.name ++ Octets.say " --help' for more information.\n")
  fails 2

def contextOf (given : Given) : Except Octets (Option Nat × Option Nat) := do
  let digits := (given.options.map (·.1)).filter Octets.isDigit
  let number (value : Octets) : Except Octets Nat :=
    if Octets.isNumber value then .ok (Octets.natural value)
    else .error (value ++ Octets.say ": invalid context length argument")
  let around := if digits = [] then none else some (Octets.natural digits)
  let (before, after, around) ← given.options.foldlM (fun (before, after, around) (letter, value) => do
    match letter with
    | 'A' => return (before, some (← number value), around)
    | 'B' => return (some (← number value), after, around)
    | 'C' => return (before, after, some (← number value))
    | _ => return (before, after, around)) ((none : Option Nat), (none : Option Nat), around)
  return (before.or around, after.or around)

def patternsOf (c : Call) (given : Given) : Running (Option (List Octets)) := do
  let mut found : List Octets := []
  let mut named := false
  for (letter, value) in given.options do
    if letter = 'e' then
      named := true
      found := found ++ Path.cutAt '\n' value
    else if letter = 'f' then
      named := true
      match ← readNamed c Files.endless value with
      | .ok text =>
        let lines := Path.cutAt '\n' text
        found := found ++ (if lines.getLast? = some [] then lines.dropLast else lines)
      | .error error =>
        complain c (value ++ Octets.say s!": {error.reason}") 2
        return none
  return some (if named then found else (given.operands.take 1).flatMap (Path.cutAt '\n'))

def grep (c : Call) : Running Unit := do
  -- Two names stand for options.
  let c := match String.ofList (c.name.drop (c.name.length - 5)) with
    | "egrep" => { c with arguments := "grep".toList :: "-E".toList :: c.operands }
    | "fgrep" => { c with arguments := "grep".toList :: "-F".toList :: c.operands }
    | _ => c
  match settings.parse c.operands.length c.operands with
  | .error text =>
    complain c text 2
    usage c
  | .ok given =>
    let named := given.options.any fun (letter, _) => letter = 'e' || letter = 'f'
    if !named && given.operands = [] then return ← usage c
    let some patterns ← patternsOf c given | return
    let operands := if named then given.operands else given.operands.tail
    match kindOf given, contextOf given with
    | .error text, _ | _, .error text => complain c text 2
    | .ok kind, .ok (before, after) =>
      if (given.value? 'm').any fun n => !Octets.isNumber (n.dropWhile (· = '-')) then
        return ← complain c (Octets.say "invalid max count") 2
      match patterns.mapM (expression kind) with
      | .error text => complain c text 2
      | .ok expressions =>
        let caseOption := given.options.reverse.find? fun (letter, _) => ['i', 'y', '^'].contains letter
        let sought : Sought := {
          expressions, folds := caseOption.any (·.1 != '^')
          wholeWords := given.has 'w', wholeLines := given.has 'x' }
        let layout : Layout := {
          lineEnd := if given.has 'z' then '\x00' else '\n'
          numbers := given.has 'n', offsets := given.has 'b', parts := given.has 'o'
          before := before.getD 0, after := after.getD 0
          hasContext := before.isSome || after.isSome
          between := if given.has '|' then none else some ((given.value? '#').getD ['-', '-'])
          nullNames := given.has 'Z' }
        let values (letter : Char) : List Octets := (given.options.filter (·.1 = letter)).map (·.2)
        let choice : Choice := ⟨values '+', values '-', values '~'⟩
        let recursive := given.has 'r' || given.has 'R' || given.value? 'd' = some "recurse".toList
        let isDirectory (path : Octets) : Bool :=
          match c.files.find c.here (pathOf path) with
          | .ok (.node _ .directory) => path != ['-']
          | _ => false
        let asked := if operands != [] then operands else if recursive then [] else [['-']]
        let files : List Octets := if !recursive then asked.filter fun path =>
            path = ['-'] || isDirectory path || choice.takesFile path
          else if operands = [] then filesBelow c choice (given.has 'R') 100 [] c.here
          else operands.flatMap fun path =>
            match c.files.find c.here (pathOf path) with
            | .ok (.node inode .directory) =>
              if choice.takesDirectory path then filesBelow c choice (given.has 'R') 100 path inode else []
            | _ => if choice.takesFile path then [path] else []
        let titled := match given.options.reverse.find? fun (letter, _) => letter = 'H' || letter = 'h' with
          | some (letter, _) => decide (letter = 'H')
          | none => 1 < operands.length || (recursive && (operands = [] || operands.any isDirectory))
        let mut found := false
        let mut wrong := false
        for file in files do
          unless found && given.has 'q' do
            match ← readNamed c Files.endless file with
            | .error error =>
              if !(error = .isDirectory && given.value? 'd' = some "skip".toList) then
                wrong := true
                unless given.has 's' do
                  tell (c.name ++ Octets.say ": " ++ file ++ Octets.say s!": {error.reason}\n")
            | .ok text =>
              let label := if file = ['-'] then (given.value? '%').getD (Octets.say "(standard input)")
                else file
              if ← inFile c given sought layout label titled text then found := true
        fails (if found && given.has 'q' then 0 else if wrong then 2 else if found then 0 else 1)

end SvelteTransform.Sandbox.Tools.Grep
