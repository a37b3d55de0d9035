import SvelteTransform.Sandbox.Tools.Basic
import SvelteTransform.Sandbox.Tools.EditScript

/-! Editing lines by a script. A line is taken up, the commands are gone through, and what has
become of it is printed. -/
namespace SvelteTransform.Sandbox.Tools.Sed
open EditScript (Address Command Part Sought Substitution Verb)

structure Editor where
  ahead : List Octets
  line : Octets := []
  lineEnd : Octets := ['\n']
  held : Octets := []
  number : Nat := 0
  file : Octets := ['-']
  separator : Char := '\n'
  width : Nat := 70
  queues : List (Octets × List Octets) := []
  begun : List (Nat × Option Nat) := []
  closed : List Nat := []
  added : List Octets := []
  substituted : Bool := false
  used : Option Sought := none
  isDone : Bool := false
  printed : List Octets := []
  written : List (Octets × Octets) := []

namespace Editor

def put (e : Editor) (text : Octets) : Editor := { e with printed := text :: e.printed }

def showLine (e : Editor) : Editor := e.put (e.line ++ e.lineEnd)

def flush (e : Editor) : Editor :=
  { e with printed := e.added ++ e.printed, added := [] }

def load (e : Editor) : Option Editor :=
  match e.ahead with
  | [] => none
  | next :: ahead =>
    let ends := next.getLast? = some e.separator
    some { e with
      ahead, number := e.number + 1
      line := if ends then next.dropLast else next
      lineEnd := if ends then [e.separator] else [] }

def writeTo (e : Editor) (file line : Octets) : Editor :=
  if file = "/dev/stdout".toList then e.put (line ++ [e.separator])
  else { e with written := (file, line ++ [e.separator]) :: e.written }

def looked (e : Editor) (s : Sought) : Option (Regex × Sought) × Editor :=
  let s := match s.expression, e.used with
    | none, some used => used
    | _, _ => s
  (s.expression.map (·, s), { e with used := some s })

def holds (e : Editor) (s : Sought) : Bool × Editor :=
  match e.looked s with
  | (none, e) => (false, e)
  | (some (r, s), e) =>
    ((r.search s.folds s.multiline (e.line.length + 1) ⟨0, none, e.line, []⟩).isSome, e)

def isAt (e : Editor) : Address → Bool × Editor
  | .line n => (e.number = n, e)
  | .last => (e.ahead = [], e)
  | .every first step =>
    (if step = 0 then e.number = first
      else first ≤ e.number && (e.number - first) % step = 0, e)
  | .holding s => e.holds s

def opened (e : Editor) (place : Nat) (last : Option Nat) : Editor :=
  { e with begun := (place, last) :: e.begun.filter (·.1 != place) }

def close (e : Editor) (place : Nat) : Editor :=
  { e with begun := e.begun.filter (·.1 != place), closed := place :: e.closed }

def goesOn (e : Editor) (place : Nat) (final : EditScript.End) (last : Option Nat) :
    Bool × Editor :=
  match last with
  | some n => (e.number ≤ n, if n ≤ e.number then e.close place else e)
  | none =>
    match final with
    | .at_ address =>
      let (found, e) := e.isAt address
      (true, if found then e.close place else e)
    | _ => (true, e.close place)

def selects (e : Editor) (c : Command) : Bool × Editor :=
  match c.lines with
  | none => (!c.negated, e)
  | some ⟨first, none⟩ =>
    let (found, e) := e.isAt first
    (found != c.negated, e)
  | some ⟨first, some final⟩ =>
    let beforeAll := EditScript.isLineZero first && !e.closed.contains c.place
    let (found, e) := match e.begun.lookup c.place, beforeAll with
      | some last, _ => e.goesOn c.place final last
      | none, true => (e.opened c.place none).goesOn c.place final none
      | none, false =>
        let (found, e) := e.isAt first
        if !found then (false, e)
        else
          let last : Option Nat := match final with
            | .at_ (.line n) => some n
            | .after n => some (e.number + n)
            | .multiple n => some (if n = 0 then e.number else (e.number + n - 1) / n * n)
            | .at_ _ => none
          (true, if last.any (· ≤ e.number) then e else e.opened c.place last)
    (found != c.negated, e)

end Editor

structure Cased where
  reversed : Octets := []
  lasting : EditScript.Case := .asIs
  next : Option EditScript.Case := none

def cased (how : EditScript.Case) (c : Char) : Char :=
  match how with
  | .asIs => c
  | .upper => c.toUpper
  | .lower => c.toLower

def Cased.put (t : Cased) (text : Octets) : Cased :=
  match text with
  | [] => t
  | c :: rest =>
    let first := cased (t.next.getD t.lasting) c
    { t with
      reversed := (rest.map (cased t.lasting)).reverse ++ first :: t.reversed, next := none }

def Cased.add (m : Regex.Match) (t : Cased) : Part → Cased
  | .text text => t.put text
  | .group 0 => t.put m.text
  | .group n => t.put ((m.groups.lookup n).getD [])
  | .case how => { t with lasting := how, next := none }
  | .caseOfNext how => { t with next := some how }

def filled (m : Regex.Match) (parts : List Part) : Octets :=
  (parts.foldl (Cased.add m) {}).reversed.reverse

def upTo (start : Nat) (p : Regex.Place) (kept : List Octets) : Regex.Place × List Octets :=
  let text := p.rest.take (start - p.passed)
  ((p.follow text).getD p, text :: kept)

def replacedIn (s : Substitution) (r : Regex) (folds multiline : Bool) :
    (fuel count : Nat) → (afterMatch : Bool) → Regex.Place → List Octets → Bool × List Octets
  | 0, _, _, p, kept => (false, p.rest :: kept)
  | fuel + 1, count, afterMatch, p, kept =>
    match r.search folds multiline (p.rest.length + 1) { p with groups := [] } with
    | none => (false, p.rest :: kept)
    | some m =>
      let again := afterMatch && m.text = [] && m.start = p.passed
      let (p, kept) := upTo m.start p kept
      let count := if again then count else count + 1
      let replaces := !again && s.number ≤ count
      let kept := (if replaces then filled m s.parts else m.text) :: kept
      let p := (p.follow m.text).getD p
      if replaces && !s.everywhere then (true, p.rest :: kept)
      else if m.text = [] then
        match p.rest with
        | [] => (replaces, kept)
        | c :: rest =>
          let (found, kept) :=
            replacedIn s r folds multiline fuel count false (p.step c rest) ([c] :: kept)
          (replaces || found, kept)
      else if p.rest = [] then (replaces, kept)
      else
        let (found, kept) := replacedIn s r folds multiline fuel count true p kept
        (replaces || found, kept)

def Editor.substitute (e : Editor) (s : Substitution) : Editor :=
  match e.looked s.sought with
  | (none, e) => e
  | (some (r, sought), e) =>
    let (found, kept) := replacedIn s r sought.folds sought.multiline (e.line.length + 2) 0 false
      ⟨0, none, e.line, []⟩ []
    if !found then e
    else
      let e := { e with line := kept.reverse.flatten, substituted := true }
      let e := if s.prints then e.showLine else e
      match s.file with
      | some file => e.writeTo file e.line
      | none => e

inductive Course where
  | onward
  | toLabel (name : Octets)
  | discarded
  | again
  | quit (status : Nat) (prints : Bool)

def spelled (line : Octets) : List Octets :=
  line.map fun c =>
    match c with
    | '\\' => ['\\', '\\']
    | '\n' => ['\\', 'n']
    | '\t' => ['\\', 't']
    | '\r' => ['\\', 'r']
    | '\x07' => ['\\', 'a']
    | '\x08' => ['\\', 'b']
    | '\x0c' => ['\\', 'f']
    | '\x0b' => ['\\', 'v']
    | c =>
      if 32 ≤ c.toNat && c.toNat < 127 then [c]
      else
        let digits := Nat.toDigits 8 c.toNat
        '\\' :: List.replicate (3 - digits.length) '0' ++ digits

def inRows (width : Nat) (parts : List Octets) : Octets :=
  let step (p : Nat × List Octets) (part : Octets) : Nat × List Octets :=
    if 0 < width && width - 1 < p.1 + part.length then (part.length, part :: ['\\', '\n'] :: p.2)
    else (p.1 + part.length, part :: p.2)
  (parts.foldl step (0, [])).2.reverse.flatten

def Editor.fromQueue (readFile : Octets → Octets) (e : Editor) (file : Octets) :
    Option Octets × Editor :=
  let lines := (e.queues.lookup file).getD (Octets.lines (readFile file))
  let others := e.queues.filter (·.1 != file)
  match lines with
  | [] => (none, { e with queues := (file, []) :: others })
  | line :: rest =>
    let line := if line.getLast? = some '\n' then line else line ++ ['\n']
    (some line, { e with queues := (file, rest) :: others })

def perform (readFile : Octets → Octets) (quiet : Bool) (c : Command) (e : Editor) :
    Course × Editor :=
  let joined (a b : Octets) : Octets := a ++ e.separator :: b
  match c.verb with
  | .substitute s => (.onward, e.substitute s)
  | .transliterate pairs =>
    (.onward, { e with line := e.line.map fun c => (pairs.lookup c).getD c })
  | .delete => (.discarded, e)
  | .deleteLine =>
    if e.line.contains e.separator then
      (.again, { e with line := (e.line.dropWhile (· != e.separator)).tail })
    else (.discarded, e)
  | .print => (.onward, e.showLine)
  | .printLine => (.onward, e.put (e.line.takeWhile (· != e.separator) ++ [e.separator]))
  | .next =>
    let shown := if quiet then e else e.showLine
    match shown.flush.load with
    | some e => (.onward, e)
    | none => (.quit 0 true, e)
  | .nextAdded =>
    match e.flush.load with
    | some next => (.onward, { next with line := joined e.line next.line })
    | none => (.quit 0 true, e)
  | .quit status prints => (.quit status prints, e)
  | .number => (.onward, e.put (Octets.ofInt (e.number : Nat) ++ ['\n']))
  | .spell width => (.onward, e.put (inRows (width.getD e.width) (spelled e.line) ++ ['$', '\n']))
  | .fileName => (.onward, e.put (e.file ++ ['\n']))
  | .clear => (.onward, { e with line := [] })
  | .append text => (.onward, { e with added := text :: e.added })
  | .insert text => (.onward, e.put text)
  | .change text =>
    let inside := c.lines.any (·.final.isSome) && (e.begun.lookup c.place).isSome && !c.negated
    (.discarded, if inside then e else e.put text)
  | .hold => (.onward, { e with held := e.line })
  | .holdAdded => (.onward, { e with held := joined e.held e.line })
  | .fetch => (.onward, { e with line := e.held })
  | .fetchAdded => (.onward, { e with line := joined e.line e.held })
  | .exchange => (.onward, { e with line := e.held, held := e.line })
  | .read file => (.onward, { e with added := readFile file :: e.added })
  | .readLine file =>
    match e.fromQueue readFile file with
    | (some line, e) => (.onward, { e with added := line :: e.added })
    | (none, e) => (.onward, e)
  | .write file => (.onward, e.writeTo file e.line)
  | .writeLine file => (.onward, e.writeTo file (e.line.takeWhile (· != '\n')))
  | .label _ | .opening | .closing => (.onward, e)
  | .branch name => (.toLabel name, e)
  | .branchIf name wanted =>
    (if e.substituted = wanted then .toLabel name else .onward, { e with substituted := false })

def afterBlock : (depth : Nat) → List Command → List Command
  | _, [] => []
  | depth, c :: rest =>
    match c.verb with
    | .opening => afterBlock (depth + 1) rest
    | .closing => if depth = 0 then rest else afterBlock (depth - 1) rest
    | _ => afterBlock depth rest

def afterLabel (name : Octets) : List Command → List Command
  | [] => []
  | c :: rest =>
    match c.verb with
    | .label other => if other = name then rest else afterLabel name rest
    | _ => afterLabel name rest

def run (readFile : Octets → Octets) (quiet : Bool) (script : List Command) :
    (fuel : Nat) → List Command → Editor → Nat × Editor
  | 0, _, e => (0, e)
  | fuel + 1, rest, e =>
    let nextLine (e : Editor) : Nat × Editor :=
      match e.flush.load with
      | some e => run readFile quiet script fuel script { e with substituted := false }
      | none => (0, e.flush)
    match rest with
    | [] => nextLine (if quiet then e else e.showLine)
    | c :: rest =>
      let (selected, e) := e.selects c
      if !selected then
        let rest := match c.verb with
          | .opening => afterBlock 0 rest
          | _ => rest
        run readFile quiet script fuel rest e
      else
        let (course, e) := perform readFile quiet c e
        match course with
        | .onward => run readFile quiet script fuel rest e
        | .toLabel name =>
          run readFile quiet script fuel (if name = [] then [] else afterLabel name script) e
        | .discarded => nextLine e
        | .again => run readFile quiet script fuel script e.flush
        | .quit status prints =>
          let e := if prints && !quiet then e.showLine else e
          let e := { e with isDone := c.verb matches .quit .. }
          (status, if prints then e.flush else { e with added := [] })

inductive Origin where
  | option (number : Nat)
  | file (name : Octets)
  deriving DecidableEq

def scriptsOf (c : Call) (given : Given) :
    Except Octets (List (Origin × Octets) × List Octets) := do
  let mut parts : List (Origin × Octets) := []
  let mut number := 1
  for (letter, value) in given.options do
    if letter = 'e' then
      parts := parts ++ [(.option number, value)]
      number := number + 1
    else if letter = 'f' then
      let text := if value = ['-'] then c.input () else c.read Files.endless value
      match text with
      | .ok text =>
        let text := if text.getLast? = some '\n' then text.dropLast else text
        parts := parts ++ [(.file value, text)]
      | .error error =>
        throw (Octets.say "couldn't open file " ++ value ++ Octets.say s!": {error.reason}")
  if parts != [] then return (parts, given.operands)
  else match given.operands with
    | script :: files => return ([(.option 1, script)], files)
    | [] => return ([], [])

def faultText (parts : List (Origin × Octets)) (fault : String) (place : Nat) : Octets :=
  let rec located : Nat → List (Origin × Octets) → Octets
    | _, [] => []
    | place, (origin, text) :: rest =>
      if text.length < place && rest != [] then located (place - text.length - 1) rest
      else match origin with
        | .option n => Octets.say s!"-e expression #{n}, char {place}: "
        | .file name =>
          let line := (text.take (place - 1)).count '\n' + 1
          Octets.say "file " ++ name ++ Octets.say s!" line {line}: "
  located place parts ++ Octets.say fault

def stepsFor (lines : List Octets) : Nat := (lines.length + 1) * 1000 + 100000

structure Manner where
  quiet : Bool
  separator : Char := '\n'
  width : Nat := 70

def linesEnding (separator : Char) : Octets → List Octets
  | [] => []
  | c :: rest =>
    if c = separator then [c] :: linesEnding separator rest
    else match linesEnding separator rest with
      | [] => [[c]]
      | line :: more => (c :: line) :: more

def edit (c : Call) (m : Manner) (script : List Command) (file : Octets) (lines : List Octets)
    (appends : Bool) : Running (Nat × Octets × Option Nat) := do
  let readFile (file : Octets) : Octets := (c.read Files.endless file).toOption.getD []
  let start : Editor := { ahead := lines, file, separator := m.separator, width := m.width }
  let (status, e) := match start.load with
    | some e => run readFile m.quiet script (stepsFor lines) script e
    | none => (0, { start with ahead := [] })
  let named := script.filterMap fun command => match command.verb with
    | .write file | .writeLine file => some file
    | .substitute { file, .. } => file
    | _ => none
  for file in named.eraseDups do
    let text := ((e.written.filter (·.1 = file)).map (·.2)).reverse.flatten
    if file = "/dev/stderr".toList then tell text
    else if file != "/dev/stdout".toList then
      let files := (← get).files
      let bytes := Octets.toBytes text
      let written := if appends then files.append c.here (pathOf file) bytes
        else files.write c.here (pathOf file) bytes
      if let .ok files := written then modify ({ · with files })
  -- A line end that is missing at the very end comes before what is printed after it.
  let rec joined : List Octets → List Octets → List Octets
    | done, [] => done
    | [], text :: rest => joined [text] rest
    | after :: done, text :: rest =>
      if text.getLast? = some m.separator || text.getLast? = some '\n' || text = [] then
        joined (text :: after :: done) rest
      else joined (text :: [m.separator] :: after :: done) rest
  return (status, (joined [] e.printed).flatten, if e.isDone then some e.ahead.length else none)

def complainOfFile (c : Call) (file : Octets) (error : SystemError) : Running Unit :=
  match error with
  | .isDirectory => complain c (Octets.say "read error on " ++ file ++
      Octets.say s!": {error.reason}") 2
  | _ => complain c (Octets.say "can't read " ++ file ++ Octets.say s!": {error.reason}") 2

def copyName (file suffix : Octets) : Octets :=
  let name := (file.reverse.takeWhile (· != '/')).reverse
  let front := file.take (file.length - name.length)
  if suffix.contains '*' then
    let filled := suffix.flatMap fun c => if c = '*' then name else [c]
    if suffix.contains '/' then filled else front ++ filled
  else file ++ suffix

def editInPlace (c : Call) (m : Manner) (script : List Command) (suffix : Octets)
    (files : List Octets) : Running Unit := do
  let mut isFirst := true
  for file in files do
    match c.files.find c.here (pathOf file) with
    | .ok (.node _ (.file content)) =>
      let text := Octets.ofBytes content
      let (status, edited, _) ← edit c m script file (linesEnding m.separator text) (!isFirst)
      isFirst := false
      if status != 0 then fails status
      let files := (← get).files
      let files ← match files.write c.here (pathOf (copyName file suffix)) content with
        | .ok kept => pure (if suffix = [] then files else kept)
        | .error error =>
          complain c (Octets.say "cannot rename " ++ file ++ Octets.say s!": {error.reason}") 4
          break
      match files.write c.here (pathOf file) (Octets.toBytes edited) with
      | .ok files => modify ({ · with files })
      | .error _ => pure ()
    | .ok (.node ..) =>
      complain c (Octets.say "couldn't edit " ++ file ++ Octets.say ": not a regular file") 4
    | .ok (.absent _) => complainOfFile c file .notFound
    | .error error => complainOfFile c file error

def sed (c : Call) : Running Unit :=
  let options : Options := {
    flags := "nErszup", valued := "efl", optional := "i"
    long := [("expression", 'e'), ("file", 'f'), ("quiet", 'n'), ("silent", 'n'),
      ("regexp-extended", 'E'), ("in-place", 'i'), ("separate", 's'), ("null-data", 'z'),
      ("zero-terminated", 'z'), ("unbuffered", 'u'), ("line-length", 'l'), ("posix", 'p')] }
  withOptions c options fun given => do
    match scriptsOf c given with
    | .error text => complain c text 4
    | .ok ([], _) =>
      tell (Octets.say
        "Usage: sed [OPTION]... \x7bscript-only-if-no-other-script\x7d [input-file]...\n\n")
      fails 1
    | .ok (parts, files) =>
      let text := ['\n'].intercalate (parts.map (·.2))
      let m : Manner := {
        quiet := given.has 'n' || text.take 3 = "#n\n".toList || text = "#n".toList
        separator := if given.has 'z' then '\x00' else '\n'
        width := ((given.value? 'l').map Octets.natural).getD 70 }
      match EditScript.ofText (given.has 'E' || given.has 'r') text with
      | .error (fault, place) => complain c (faultText parts fault place)
      | .ok script =>
        if let some label := EditScript.missingLabel script then
          complain c (Octets.say "can't find label for jump to \x60" ++ label ++ ['\''])
        else if let some suffix := given.value? 'i' then
          if files = [] then complain c (Octets.say "no input files") 4
          editInPlace c m script suffix files
        else
          let mut found : List (Octets × Octets) := []
          for file in if files = [] then [['-']] else files do
            match ← readNamed c Files.endless file with
            | .ok text => found := found ++ [(file, text)]
            | .error error => complainOfFile c file error
          if given.has 's' then
            let mut isFirst := true
            for (file, text) in found do
              let (status, edited, _) ← edit c m script file (linesEnding m.separator text) (!isFirst)
              isFirst := false
              print edited
              if status != 0 then fails status
          else
            let lines := found.flatMap fun (_, text) => linesEnding m.separator text
            let name := ((found.head?).map (·.1)).getD ['-']
            let (status, edited, left) ← edit c m script name lines false
            print edited
            if let some left := left then
              let before := (found.dropLast.flatMap (·.2)).length
              needed (.bytes ((lines.take (lines.length - left)).flatten.length - before))
            if status != 0 then fails status

end SvelteTransform.Sandbox.Tools.Sed
