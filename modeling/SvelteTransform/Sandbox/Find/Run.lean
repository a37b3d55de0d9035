import SvelteTransform.Sandbox.Find.Criterion
import SvelteTransform.Sandbox.Program
import SvelteTransform.Sandbox.Tools.Tree

/-! Going through trees of files. What is found is looked at one by one, and what is done with one
shows when the next is looked at. -/
namespace SvelteTransform.Sandbox.Find

abbrev Start := Process → World → Except SystemError (Option Worker.ExitStatus × World)

structure Search where
  world : World
  process : Process
  status : Nat := 0
  gathered : List (Nat × Octets) := []
  prunes : Bool := false
  isOver : Bool := false
  isUnheard : Bool := false
  isSpent : Bool := false

abbrev Action := StateM Search

structure Item where
  start : Octets
  path : Octets
  inode : Inode
  node : Node
  depth : Nat

def write (descriptor : Nat) (text : Octets) : Action Unit := modify fun s =>
  match (s.process.descriptors.lookup descriptor).map (s.world.write · text) with
  | some (.ok world) => { s with world }
  | some (.error .brokenPipe) =>
    if s.process.ignores.contains 13 then { s with status := 1 }
    else { s with isUnheard := true, isOver := true }
  | _ => { s with status := 1 }

def complain (text : Octets) : Action Unit := do
  let name := (← get).process.arguments.headD []
  write 2 (name ++ Octets.say ": " ++ text ++ ['\n'])
  modify ({ · with status := 1 })

def leading (path : Octets) : Octets :=
  let trimmed := (path.reverse.dropWhile (· = '/')).reverse
  let front := (trimmed.reverse.dropWhile (· != '/')).tail.reverse
  if trimmed.contains '/' then front else if trimmed = [] then [] else ['.']

def kindOf : Node → Char
  | .directory => 'd'
  | .link _ => 'l'
  | .file .. | .tool _ => 'f'
  | .device _ => 'c'
  | .pipe _ => 'p'

def shownTime (m : Calendar.Moment) (letter : Char) : Octets :=
  let part := Octets.say ("." ++ String.ofList (Calendar.shown m "%N") ++ "0")
  match letter with
  | '@' => Octets.ofInt m.seconds ++ part
  | '+' => Calendar.shown m "%Y-%m-%d+%H:%M:%S" ++ part
  | 'S' => Calendar.shown m "%S" ++ part
  | 'T' | 'X' => Calendar.shown m "%H:%M:%S" ++ part
  | letter => Calendar.format m 40 ['%', letter]

def shown (files : Files) (i : Item) (letter : Char) : Option Octets :=
  match letter with
  | 'p' => some i.path
  | 'f' => some (if i.path = ['/'] then ['/'] else Tools.lastName i.path)
  | 'h' => some (leading i.path)
  | 'H' => some i.start
  | 'P' => some ((i.path.drop i.start.length).dropWhile (· = '/'))
  | 's' => some (Octets.ofInt (Tools.Facts.size i.node))
  | 'k' => some (Octets.ofInt (Tools.Facts.room i.node / 1024 : Nat))
  | 'b' => some (Octets.ofInt (Tools.Facts.room i.node / 512 : Nat))
  | 'd' => some (Octets.ofInt i.depth)
  | 'y' => some [kindOf i.node]
  | 'Y' => some [match i.node with
    | .link target =>
      match files.find (files.parentOf i.inode) target with
      | .ok (.node _ node) => kindOf node
      | .error .linkLoop => 'L'
      | _ => 'N'
    | node => kindOf node]
  | 'm' => some (Nat.toDigits 8 (files.mode i.inode))
  | 'M' => some (Tools.Facts.letters files i.inode i.node)
  | 't' | 'a' | 'c' =>
    some (Calendar.shown (Tools.Facts.moment files i.inode) "%a %b %e %H:%M:%S.%N" ++
      Calendar.shown (Tools.Facts.moment files i.inode) "0 %Y")
  | 'u' | 'g' => some "root".toList
  | 'U' | 'G' => some ['0']
  | 'n' => some (Octets.ofInt (Tools.Facts.links files i.inode))
  | 'i' => some (Octets.ofInt i.inode)
  | 'l' => some (match i.node with
    | .link target => Octets.ofText target.spelling
    | _ => [])
  | _ => none

def formatted (files : Files) (i : Item) : (fuel : Nat) → Octets → Octets
  | fuel + 1, '%' :: '%' :: rest => '%' :: formatted files i fuel rest
  | fuel + 1, '%' :: text =>
    let flags := text.takeWhile ("-0+ #".toList.contains ·)
    let rest := text.drop flags.length
    let width := rest.takeWhile Octets.isDigit
    let rest := rest.drop width.length
    let (precision, rest) : Option Nat × Octets := match rest with
      | '.' :: rest =>
        let digits := rest.takeWhile Octets.isDigit
        (some (Octets.natural digits), rest.drop digits.length)
      | rest => (none, rest)
    match rest with
    | letter :: rest =>
      let (found, rest) : Option Octets × Octets := match rest with
        | part :: more =>
          if "TAC".toList.contains letter then
            (some (shownTime (Tools.Facts.moment files i.inode) part), more)
          else (shown files i letter, rest)
        | [] => (shown files i letter, [])
      match found with
      | some text =>
        let text := match precision with
          | some n => text.take n
          | none => text
        Tools.Printf.pad ⟨flags, Octets.natural width, none⟩ text ++ formatted files i fuel rest
      | none => '%' :: letter :: formatted files i fuel rest
    | [] => '%' :: text
  | _, ['\\'] => ['\\']
  | _, '\\' :: 'c' :: _ => []
  | fuel + 1, '\\' :: rest =>
    let (text, rest) := Tools.Printf.escape rest
    text ++ formatted files i fuel rest
  | fuel + 1, c :: rest => c :: formatted files i fuel rest
  | _, _ => []

def filled (path : Octets) : Octets → Octets
  | [] => []
  | '\x7b' :: '\x7d' :: rest => path ++ filled path rest
  | c :: rest => c :: filled path rest

section
variable (start : Start)

def run (here : Inode) (arguments : List Octets) : Action Bool := do
  let s ← get
  match start { s.process with here, arguments } s.world with
  | .error error =>
    complain (Tools.quoted (arguments.headD []) ++ Octets.say s!": {error.reason}")
    modify ({ · with status := s.status })
    return false
  | .ok (ended, world) =>
    set { s with world }
    match ended with
    | none =>
      modify ({ · with isSpent := true, isOver := true })
      return false
    | some ended => return ended = .exited 0

def remove (i : Item) : Action Bool := do
  if i.path = ['.'] then return true
  let s ← get
  let path := pathOf i.path
  let removed := if i.node = .directory then s.world.files.removeDirectory s.process.here path
    else s.world.files.unlink s.process.here path
  match removed with
  | .ok files =>
    set { s with world := { s.world with files } }
    return true
  | .error error =>
    complain (Octets.say "cannot delete " ++ Tools.quoted i.path ++ Octets.say s!": {error.reason}")
    return false

def behind (i : Item) : Action Node := do
  let s ← get
  match s.world.files.find s.process.here (pathOf i.path) with
  | .ok (.node _ node) => return node
  | _ => return i.node

def meets (i : Item) : Criterion → Action Bool
  | .named p folds =>
    let name := if i.path = ['/'] then i.path else Tools.lastName i.path
    return p.covers (if folds then name.map Char.toLower else name)
  | .path p folds => return p.covers (if folds then i.path.map Char.toLower else i.path)
  | .spelled r folds =>
    return (r.matchAt folds false ⟨0, none, i.path, []⟩).any (·.text = i.path)
  | .leadsTo p => return match i.node with
    | .link target => p.covers (Octets.ofText target.spelling)
    | _ => false
  | .kind letters follows => do
    let node ← if follows then behind i else pure i.node
    return letters.contains (kindOf node)
  | .empty => do
    let files := (← get).world.files
    return match i.node with
      | .directory => files.isEmpty i.inode
      | .file content => content = []
      | _ => false
  | .runnable => return i.node = .directory || (← get).world.files.isExecutable i.inode
  | .always b => return b
  | .size amount unit => return amount.fits ((Tools.Facts.size i.node + unit - 1) / unit)
  | .marked marks => return marks.fits ((← get).world.files.mode i.inode)
  | .old amount unit => do
    let files := (← get).world.files
    return amount.fits ((files.now - files.time i.inode) / unit)
  | .newer path => do
    let s ← get
    return match s.world.files.find s.process.here (pathOf path) with
      | .ok (.node inode _) => s.world.files.time inode < s.world.files.time i.inode
      | _ => false
  | .since text => do
    let files := (← get).world.files
    return ((Calendar.read? files.now text).any fun (time : Int) => time < (files.time i.inode : Int))
  | .sameAs path => do
    let s ← get
    return match s.world.files.find s.process.here (pathOf path) with
      | .ok (.node inode _) => inode = i.inode
      | _ => false
  | .linked amount => do return amount.fits (Tools.Facts.links (← get).world.files i.inode)
  | .numbered amount => return amount.fits i.inode
  | .list => do
    let files := (← get).world.files
    let number (width n : Nat) : Octets := Tools.padLeft width (Octets.ofInt n)
    let ending := match i.node with
      | .link target => Octets.say " -> " ++ Octets.ofText target.spelling
      | _ => []
    write 1 (number 9 i.inode ++ ' ' :: number 6 (Tools.Facts.room i.node / 1024) ++ ' ' ::
      Tools.Facts.letters files i.inode i.node ++ ' ' :: ' ' ::
      number 2 (Tools.Facts.links files i.inode) ++ Octets.say " root     root     " ++
      number 8 (Tools.Facts.size i.node) ++ ' ' ::
      Calendar.shown (Tools.Facts.moment files i.inode) "%b %e %H:%M" ++ ' ' :: i.path ++
      ending ++ ['\n'])
    return true
  | .print lineEnd => do
    write 1 (i.path ++ [lineEnd])
    return true
  | .printFormatted format => do
    write 1 (formatted (← get).world.files i (format.length + 1) format)
    return true
  | .remove => remove i
  | .prune => do
    modify ({ · with prunes := true })
    return true
  | .quit => do
    modify ({ · with isOver := true })
    return true
  | .start inside command => do
    let s ← get
    if inside then
      let here := match s.world.files.find s.process.here (pathOf (leading i.path)) with
        | .ok (.node inode .directory) => inode
        | _ => s.process.here
      run start here (command.map (filled ('.' :: '/' :: Tools.lastName i.path)))
    else run start s.process.here (command.map (filled i.path))
  | .gather number _ => do
    modify fun s => { s with gathered := (number, i.path) :: s.gathered }
    return true
  | .no c => return !(← meets i c)
  | .both a b => do
    if ← meets i a then
      if (← get).isOver then return true
      meets i b
    else return false
  | .either a b => do
    if ← meets i a then return true
    meets i b
  | .after a b => do
    let _ ← meets i a
    meets i b

def gathers : Criterion → List (Nat × List Octets)
  | .gather number command => [(number, command)]
  | .no c => gathers c
  | .both a b | .either a b | .after a b => gathers a ++ gathers b
  | _ => []

def visit (asked : Asked) : (fuel : Nat) → Item → Action Unit
  | 0, _ => return
  | fuel + 1, i => do
    if (← get).isOver then return
    let look : Action Unit := do
      if asked.least ≤ i.depth && !(← get).isOver then
        let _ ← meets start i asked.criterion
    modify ({ · with prunes := false })
    unless asked.insideFirst do look
    let pruned := (← get).prunes && !asked.insideFirst
    let s ← get
    let isThere : Bool := s.world.files.node? i.inode = some .directory
    if isThere && !pruned && asked.most.all (i.depth < ·) then
      for (name, inode) in s.world.files.children i.inode do
        let path := Tools.below i.path (Octets.ofText name)
        let files := (← get).world.files
        let here := (files.node? inode).map (inode, ·)
        let found := match asked.follows with
          | .always =>
            match files.find s.process.here (pathOf path) with
            | .ok (.node inode node) => some (inode, node)
            | _ => here
          | _ => here
        if let some (inode, node) := found then
          visit asked fuel ⟨i.start, path, inode, node, i.depth + 1⟩
    if asked.insideFirst then look

def depthLimit : Nat := 200

def visitTree (asked : Asked) (path : Octets) : Action Unit := do
  let s ← get
  let look (follows : Bool) : Except SystemError (Inode × Node) := do
    match ← s.world.files.find s.process.here (pathOf path) follows with
    | .node inode node => return (inode, node)
    | .absent _ => throw .notFound
  match look (asked.follows != .never) <|> look false with
  | .ok (inode, node) => visit start asked depthLimit ⟨path, path, inode, node, 0⟩
  | .error error => complain (Tools.quoted path ++ Octets.say s!": {error.reason}")

def search (asked : Asked) : Action Unit := do
  for path in asked.starts do
    unless (← get).isOver do visitTree start asked path
  for (number, command) in gathers asked.criterion do
    let s ← get
    let found := (s.gathered.filter (·.1 = number)).reverse.map (·.2)
    unless found.isEmpty || s.isSpent do
      let succeeded ← run start s.process.here (command ++ found)
      unless succeeded do modify ({ · with status := 1 })

def find (p : Process) (w : World) : Option Worker.ExitStatus × World :=
  let s : Search := { world := w, process := p }
  match Asked.ofArguments p.arguments.tail with
  | .error text =>
    let (_, s) := (complain text).run s
    (some (.exited 1), s.world)
  | .ok asked =>
    let (_, s) := (search start asked).run s
    (if s.isSpent then none else some (if s.isUnheard then .killed 13 else .exited s.status),
      s.world)
end

end SvelteTransform.Sandbox.Find
