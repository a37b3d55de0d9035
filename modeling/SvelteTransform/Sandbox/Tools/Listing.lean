import SvelteTransform.Sandbox.Tools.Facts
import SvelteTransform.Sandbox.Tools.Printf
import SvelteTransform.Sandbox.Tools.Versions

/-! Programs that tell what is in the tree of files, and what things in it are. -/
namespace SvelteTransform.Sandbox.Tools

def look (c : Call) (path : Octets) (follows : Bool) : Running (Except SystemError Found) := do
  return (← get).files.find c.here (pathOf path) follows

def there (c : Call) (path : Octets) (follows : Bool) :
    Running (Except SystemError (Inode × Node)) := do
  match ← look c path follows with
  | .ok (.node inode node) => return .ok (inode, node)
  | .ok (.absent _) => return .error .notFound
  | .error error => return .error error

def below (path name : Octets) : Octets :=
  if path.getLast? = some '/' then path ++ name else path ++ '/' :: name

def lastName (path : Octets) : Octets :=
  ((path.reverse.dropWhile (· = '/')).takeWhile (· != '/')).reverse

def inDoubleQuotes (name : Octets) : Octets :=
  let write (c : Char) : Octets := match c with
    | '"' => ['\\', '"']
    | '\\' => ['\\', '\\']
    | '\n' => ['\\', 'n']
    | '\t' => ['\\', 't']
    | c => [c]
  '"' :: name.flatMap write ++ ['"']

namespace Listing

structure Entry where
  name : Octets
  inode : Inode
  node : Node

def mark (files : Files) (e : Entry) : Octets :=
  match e.node with
  | .directory => ['/']
  | .link _ => ['@']
  | .pipe _ => ['|']
  | .file _ | .tool _ => if files.isExecutable e.inode then ['*'] else []
  | .device _ => []

def order (given : Given) : Option Char :=
  (given.options.reverse.find? fun (c, _) => "tSXvUf~".toList.contains c).map fun (c, value) =>
    if c = '~' then match String.ofList value with
      | "time" => 't'
      | "size" => 'S'
      | "extension" => 'X'
      | "version" => 'v'
      | "none" => 'U'
      | _ => 'n'
    else c

def extension (name : Octets) : Octets :=
  let back := name.reverse.takeWhile (· != '.')
  if back.length < name.length then '.' :: back.reverse else []

def sorted (files : Files) (given : Given) (entries : List Entry) : List Entry :=
  let byName (a b : Entry) : Bool := !(b.name < a.name : Bool)
  let keyed {α : Type} [DecidableEq α] (less : α → α → Bool) (key : Entry → α) (a b : Entry) : Bool :=
    if key a = key b then byName a b else less (key a) (key b)
  let entries := match order given with
    | some 't' => entries.mergeSort (keyed (fun a b => b < a) fun e => files.time e.inode)
    | some 'S' => entries.mergeSort (keyed (fun a b => b < a) fun e => Facts.size e.node)
    | some 'X' => entries.mergeSort (keyed (fun a b => a < b) fun e => extension e.name)
    | some 'v' => entries.mergeSort fun a b => match Versions.compare a.name b.name with
      | .eq => byName a b
      | found => found = .lt
    | _ => entries.mergeSort byName
  let entries := if given.has 'r' then entries.reverse else entries
  if given.has '!' then
    let (directories, others) := entries.partition (·.node = .directory)
    directories ++ others
  else entries

def shownName (given : Given) (name : Octets) : Octets :=
  if given.has 'Q' then inDoubleQuotes name
  else if given.has 'q' then
    (Octets.toText name).flatMap fun c => if c.toNat < 32 || c.toNat = 127 then ['?'] else Octets.ofText [c]
  else name

def shownTime (given : Given) (files : Files) (inode : Inode) : Octets :=
  let m := Facts.moment files inode
  match (given.value? '@').map String.ofList with
  | some "full-iso" => Calendar.shown m "%Y-%m-%d %H:%M:%S.%N %z"
  | some "long-iso" => Calendar.shown m "%Y-%m-%d %H:%M"
  | some style =>
    if style.startsWith "+" then Calendar.shown m (style.drop 1).toString
    else recent m
  | none =>
    if given.has 'T' then Calendar.shown m "%Y-%m-%d %H:%M:%S.%N %z" else recent m
where
  recent (m : Calendar.Moment) : Octets :=
    let age : Int := (files.now : Int) - m.milliseconds
    if 0 ≤ age && age < 15778476000 then Calendar.shown m "%b %e %H:%M"
    else Calendar.shown m "%b %e  %Y"

def cells (given : Given) (files : Files) (e : Entry) : List (Bool × Octets) :=
  let number (n : Nat) : Bool × Octets := (true, Octets.ofInt n)
  let front := (if given.has 'i' then [number e.inode] else []) ++
    if given.has 's' then
      [(true, if given.has 'h' then Facts.readable (Facts.room e.node)
        else Octets.ofInt (Facts.room e.node / 1024 : Nat))] else []
  let user := if given.has 'n' then "0".toList else "root".toList
  let isLong := ['l', 'g', 'o', 'n', 'T'].any given.has
  if isLong then
    let size := Facts.size e.node
    front ++ [(false, Facts.letters files e.inode e.node), number (Facts.links files e.inode)] ++
      (if given.has 'g' then [] else [(false, user)]) ++
      (if given.has 'o' || given.has 'G' then [] else [(false, user)]) ++
      [(true, if given.has 'h' then Facts.readable size else Octets.ofInt size),
       (true, shownTime given files e.inode)]
  else front

def row (given : Given) (files : Files) (widths : List Nat) (e : Entry) : Octets :=
  let isLong := ['l', 'g', 'o', 'n', 'T'].any given.has
  let parts := ((cells given files e).zip widths).flatMap fun ((right, text), width) =>
    (if right then padLeft width text else padRight width text) ++ [' ']
  let mark (e : Entry) : Octets :=
    if given.has 'F' then Listing.mark files e
    else if given.has 'p' && e.node = .directory then ['/'] else []
  let ending := match isLong, e.node with
    | true, .link target => Octets.say " -> " ++ Octets.ofText target.spelling
    | _, _ => mark e
  parts ++ shownName given e.name ++ ending

def inRow (width : Nat) : (column : Nat) → List Octets → Octets
  | _, [] => ['\n']
  | column, name :: rest =>
    let comma := if rest = [] then [] else [',']
    if column = 0 then name ++ comma ++ inRow width (name.length + comma.length) rest
    else if column + 1 + name.length + comma.length < width then
      ' ' :: name ++ comma ++ inRow width (column + 1 + name.length + comma.length) rest
    else '\n' :: name ++ comma ++ inRow width (name.length + comma.length) rest

def rows (given : Given) (files : Files) (entries : List Entry) : Octets :=
  let table := entries.map (cells given files)
  let columns := (table.map List.length).foldl max 0
  let widths := (List.range columns).map fun i =>
    (table.map fun row => ((row[i]?).map (·.2.length)).getD 0).foldl max 0
  let shown := entries.map (row given files widths)
  if given.has 'm' && columns = 0 then if shown = [] then [] else inRow 80 0 shown
  else shown.flatMap (· ++ ['\n'])

def inside (given : Given) (files : Files) (directory : Inode) : List Entry :=
  let all := given.has 'a' || given.has 'f'
  let hidden : List Entry := if all && files.isNamed directory then
      [⟨['.'], directory, .directory⟩, ⟨['.', '.'], files.parent directory, .directory⟩]
    else []
  let found := (files.children directory).filterMap fun (name, inode) => do
    let node ← files.node? inode
    guard (name.head? != some '.' || all || given.has 'A')
    guard (!(given.has 'B' && name.getLast? = some '~'))
    let node := match node, given.has 'L' with
      | .link target, true =>
        match files.find directory target with
        | .ok (.node _ there) => there
        | _ => .link target
      | node, _ => node
    return ⟨Octets.ofText name, inode, node⟩
  sorted files given (hidden ++ found)

def everything (given : Given) (files : Files) : (fuel : Nat) → Octets × Inode → List (Octets × Inode)
  | 0, entry => [entry]
  | fuel + 1, (path, directory) =>
    let further := (inside given files directory).filter fun e =>
      e.node = .directory && !([['.'], ['.', '.']].contains e.name)
    (path, directory) :: further.flatMap fun e =>
      everything given files fuel (below path e.name, e.inode)

def options : Options := {
  flags := "1aAbBcCdfFgGhHiklLmnNopqQrRsStTuUvxX!"
  valued := "IwD@~"
  long := [("all", 'a'), ("almost-all", 'A'), ("directory", 'd'), ("recursive", 'R'),
    ("reverse", 'r'), ("classify", 'F'), ("color", 'N'), ("dereference", 'L'),
    ("full-time", 'T'), ("group-directories-first", '!'), ("human-readable", 'h'),
    ("inode", 'i'), ("ignore-backups", 'B'), ("literal", 'N'), ("no-group", 'G'),
    ("numeric-uid-gid", 'n'), ("quote-name", 'Q'), ("hide-control-chars", 'q'), ("size", 's'),
    ("sort", '~'), ("time-style", '@')] }

def total (given : Given) (entries : List Entry) : Octets :=
  let room := entries.foldl (fun n e => n + Facts.room e.node) 0
  Octets.say "total " ++
    (if given.has 'h' then Facts.readable room else Octets.ofInt (room / 1024 : Nat)) ++ ['\n']

end Listing

def ls (c : Call) : Running Unit :=
  withOptions c Listing.options (fun given => do
    let paths := if given.operands = [] then [['.']] else given.operands
    let isLong := ['l', 'g', 'o', 'n', 'T'].any given.has
    let mut plain : List Listing.Entry := []
    let mut directories : List Listing.Entry := []
    for path in paths do
      let follows := given.has 'L' || given.has 'H' || !(isLong || given.has 'F' || given.has 'd')
      let found ← there c path follows
      let found ← if found matches .error _ then there c path false else pure found
      match found with
      | .error error =>
        complain c (Octets.say "cannot access " ++ quoted path ++ Octets.say s!": {error.reason}") 2
      | .ok (inode, node) =>
        let entry : Listing.Entry := ⟨path, inode, node⟩
        if node = .directory && !given.has 'd' then directories := directories ++ [entry]
        else plain := plain ++ [entry]
    let files := (← get).files
    print (Listing.rows given files (Listing.sorted files given plain))
    let titled := 1 < paths.length || given.has 'R'
    let mut first := plain.isEmpty
    let roots := (Listing.sorted files given directories).map fun e => (e.name, e.inode)
    let listed := if given.has 'R' then roots.flatMap (Listing.everything given files 40) else roots
    for (path, directory) in listed do
      if titled then
        print ((if first then [] else ['\n']) ++ path ++ [':', '\n'])
      first := false
      let entries := Listing.inside given files directory
      if isLong || given.has 's' then print (Listing.total given entries)
      print (Listing.rows given files entries)) 2

namespace Stat

def shown (files : Files) (path : Octets) (inode : Inode) (node : Node) (letter : Char) :
    Option Octets :=
  let number (n : Nat) : Option Octets := some (Octets.ofInt n)
  let m := Facts.moment files inode
  match letter with
  | 'n' => some path
  | 'N' => some <| match node with
    | .link target => quoted path ++ Octets.say " -> " ++ quoted (Octets.ofText target.spelling)
    | _ => quoted path
  | 's' => number (Facts.size node)
  | 'b' => number (Facts.room node / 512)
  | 'B' => number 512
  | 'o' => number 4096
  | 'a' => some (Nat.toDigits 8 (files.mode inode))
  | 'A' => some (Facts.letters files inode node)
  | 'f' => some (Nat.toDigits 16 (Facts.kindBits node + files.mode inode))
  | 'F' => some (Octets.say (Facts.kindName node))
  | 'h' => number (Facts.links files inode)
  | 'i' => number inode
  | 'u' | 'g' | 't' | 'T' | 'r' => number 0
  | 'U' | 'G' => some "root".toList
  | 'd' => number 50
  | 'D' => some "32".toList
  | 'm' => some ['/']
  | 'x' | 'y' | 'z' | 'w' => some (Calendar.shown m "%Y-%m-%d %H:%M:%S.%N %z")
  | 'X' | 'Y' | 'Z' | 'W' => some (Octets.ofInt m.seconds)
  | _ => none

def formatted (shown : Char → Option Octets) (resolves : Bool) : (fuel : Nat) → Octets → Octets
  | fuel + 1, '%' :: '%' :: rest => '%' :: formatted shown resolves fuel rest
  | fuel + 1, '%' :: text =>
    let flags := text.takeWhile ("-0+ #'".toList.contains ·)
    let rest := text.drop flags.length
    let width := rest.takeWhile Octets.isDigit
    let rest := rest.drop width.length
    let (precision, rest) : Option Nat × Octets := match rest with
      | '.' :: more =>
        let digits := more.takeWhile Octets.isDigit
        (some (Octets.natural digits), more.drop digits.length)
      | rest => (none, rest)
    match rest with
    | letter :: rest =>
      let text := (shown letter).getD ['?']
      let isDigits := text.all Octets.isDigit
      let text := match precision with
        | some n => if isDigits then List.replicate (n - text.length) '0' ++ text else text.take n
        | none => text
      let text := if flags.contains '#' && letter = 'a' then '0' :: text else text
      Printf.padDigits ⟨flags, Octets.natural width, none⟩ isDigits [] text ++
        formatted shown resolves fuel rest
    | [] => '%' :: text
  | fuel + 1, '\\' :: rest =>
    if resolves then
      let (text, rest) := Printf.escape rest
      text ++ formatted shown resolves fuel rest
    else '\\' :: formatted shown resolves fuel rest
  | fuel + 1, c :: rest => c :: formatted shown resolves fuel rest
  | _, _ => []

def usual (isLink : Bool) : String :=
  "  File: " ++ (if isLink then "%N" else "%n") ++ "\n  Size: %-10s\tBlocks: %-10b IO Block: %-6o %F\n" ++
  "Device: 0,%d\tInode: %-10i  Links: %h\n" ++
  "Access: (%04a/%10.10A)  Uid: (%5u/%8U)   Gid: (%5g/%8G)\n" ++
  "Access: %x\nModify: %y\nChange: %z\n Birth: %w\n"

end Stat

def stat (c : Call) : Running Unit :=
  let options : Options := {
    flags := "Lft", valued := "cP"
    long := [("dereference", 'L'), ("format", 'c'), ("printf", 'P'), ("terse", 't'),
      ("file-system", 'f')] }
  withOptions c options fun given => do
    if given.operands = [] then missingOperand c
    for path in given.operands do
      match ← there c path (given.has 'L') with
      | .error error =>
        complain c (Octets.say "cannot statx " ++ quoted path ++ Octets.say s!": {error.reason}")
      | .ok (inode, node) =>
        let shown := Stat.shown (← get).files path inode node
        let fill (resolves : Bool) (format : Octets) : Octets :=
          Stat.formatted shown resolves (format.length + 1) format
        print <| match given.value? 'P', given.value? 'c' with
          | some format, _ => fill true format
          | none, some format => fill false format ++ ['\n']
          | none, none =>
            if given.has 't' then
              fill false (Octets.say "%n %s %b %f %u %g %D %i %h %t %T %X %Y %Z %W %o") ++ ['\n']
            else fill false (Octets.say (Stat.usual (node matches .link _)))

end SvelteTransform.Sandbox.Tools
