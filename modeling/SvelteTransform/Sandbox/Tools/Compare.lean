import SvelteTransform.Sandbox.Tools.Difference
import SvelteTransform.Sandbox.Tools.Listing

/-! Comparing files line by line, and whole directories. -/
namespace SvelteTransform.Sandbox.Tools.Compare
open Difference (Hunk)

structure Likeness where
  foldsCase : Bool := false
  foldsBlanks : Bool := false
  ignoresBlanks : Bool := false
  ignoresTrailing : Bool := false
  ignoresEmptyLines : Bool := false
  stripsReturns : Bool := false

inductive Style where
  | plain
  | unified (context : Nat)
  | context (context : Nat)
  | script
  | rcs
  | brief
  deriving DecidableEq, Repr

structure Manner where
  like : Likeness
  style : Style
  labels : List Octets
  isRecursive : Bool
  makesEmpty : Bool
  tellsSame : Bool
  asText : Bool
  initialTab : Bool
  flags : List Octets

def foldBlanks : Octets → Octets
  | [] => []
  | c :: rest =>
    if Octets.isSpace c then
      match foldBlanks rest with
      | ' ' :: more => ' ' :: more
      | more => ' ' :: more
    else c :: foldBlanks rest

def trimEnd (text : Octets) : Octets := (text.reverse.dropWhile Octets.isSpace).reverse

def Likeness.key (l : Likeness) (line : Octets) : Octets :=
  let line := if l.stripsReturns then
      if line.reverse.take 2 = ['\n', '\r'] then line.dropLast.dropLast ++ ['\n'] else line
    else line
  let line := if l.foldsCase then line.map Char.toLower else line
  if l.ignoresBlanks then line.filter (!Octets.isSpace ·)
  else if l.foldsBlanks then foldBlanks (trimEnd line)
  else if l.ignoresTrailing then trimEnd line
  else line

def numbered (keys others : List Octets) : Array Nat × Array Nat :=
  let sorted := ((keys ++ others).mergeSort fun a b => !(b < a : Bool)).toArray
  let number (key : Octets) : Nat :=
    let rec go : (fuel low high : Nat) → Nat
      | 0, low, _ => low
      | fuel + 1, low, high =>
        if high ≤ low then low
        else
          let mid := (low + high) / 2
          if sorted.getD mid [] < key then go fuel (mid + 1) high else go fuel low mid
    go (sorted.size + 1) 0 sorted.size
  ((keys.map number).toArray, (others.map number).toArray)

def Style.surroundings : Style → Nat
  | .unified n | .context n => n
  | _ => 0

def hunks (l : Likeness) (style : Style) (a b : List Octets) : List Hunk :=
  let (x, y) := numbered (a.map l.key) (b.map l.key)
  let ends (lines : List Octets) : Bool := (lines.getLast?.getD []).getLast? = some '\n'
  let found := Difference.hunks style.surroundings (ends a = ends b) x y
  if !l.ignoresEmptyLines then found
  else
    let isEmpty (line : Octets) : Bool := line = ['\n'] || line = []
    found.filter fun h =>
      !(((a.drop h.start).take h.removed).all isEmpty && ((b.drop h.startOther).take h.added).all isEmpty)

def row (mark line : Octets) : Octets :=
  if line.getLast? = some '\n' then mark ++ line
  else mark ++ line ++ Octets.say "\n\\ No newline at end of file\n"

def range (start count : Nat) : Octets :=
  if count ≤ 1 then Octets.ofInt (start + count : Nat)
  else Octets.ofInt (start + 1 : Nat) ++ ',' :: Octets.ofInt (start + count : Nat)

def letter (h : Hunk) : Char := if h.removed = 0 then 'a' else if h.added = 0 then 'd' else 'c'

def plain (a b : List Octets) (h : Hunk) : Octets :=
  range h.start h.removed ++ letter h :: range h.startOther h.added ++ ['\n'] ++
    ((a.drop h.start).take h.removed).flatMap (row ['<', ' ']) ++
    (if h.removed = 0 || h.added = 0 then [] else Octets.say "---\n") ++
    ((b.drop h.startOther).take h.added).flatMap (row ['>', ' '])

def grouped (context : Nat) : List Hunk → List (List Hunk)
  | [] => []
  | h :: rest =>
    match grouped context rest with
    | (next :: more) :: groups =>
      if next.start ≤ h.start + h.removed + 2 * context then (h :: next :: more) :: groups
      else [h] :: (next :: more) :: groups
    | groups => [h] :: groups

def span (context size sizeOther : Nat) (group : List Hunk) : Hunk :=
  match group.head?, group.getLast? with
  | some first, some last =>
    let before := min context (min first.start first.startOther)
    let after := min context (min (size - (last.start + last.removed))
      (sizeOther - (last.startOther + last.added)))
    let start := first.start - before
    let startOther := first.startOther - before
    ⟨start, last.start + last.removed + after - start,
      startOther, last.startOther + last.added + after - startOther⟩
  | _, _ => ⟨0, 0, 0, 0⟩

def unifiedRange (start count : Nat) : Octets :=
  if count = 1 then Octets.ofInt (start + 1 : Nat)
  else Octets.ofInt ((if count = 0 then start else start + 1) : Nat) ++ ',' :: Octets.ofInt count

def unified (context : Nat) (a b : List Octets) (group : List Hunk) : Octets :=
  let s := span context a.length b.length group
  let slice (first last : Nat) : List Octets := (a.take last).drop first
  let rec body : Nat → List Hunk → Octets
    | place, [] => (slice place (s.start + s.removed)).flatMap (row [' '])
    | place, h :: rest =>
      (slice place h.start).flatMap (row [' ']) ++
        (slice h.start (h.start + h.removed)).flatMap (row ['-']) ++
        ((b.drop h.startOther).take h.added).flatMap (row ['+']) ++ body (h.start + h.removed) rest
  Octets.say "@@ -" ++ unifiedRange s.start s.removed ++ Octets.say " +" ++
    unifiedRange s.startOther s.added ++ Octets.say " @@\n" ++ body s.start group

def contextRange (start count : Nat) : Octets :=
  if count ≤ 1 then Octets.ofInt (start + count : Nat)
  else Octets.ofInt (start + 1 : Nat) ++ ',' :: Octets.ofInt (start + count : Nat)

def inContext (context : Nat) (a b : List Octets) (group : List Hunk) : Octets :=
  let s := span context a.length b.length group
  let rec body (lines : List Octets) (mark : Char) (stop : Nat) :
      Nat → List (Nat × Nat × Bool) → Octets
    | place, [] => ((lines.take stop).drop place).flatMap (row [' ', ' '])
    | place, (start, count, both) :: rest =>
      ((lines.take start).drop place).flatMap (row [' ', ' ']) ++
        ((lines.drop start).take count).flatMap (row [if both then '!' else mark, ' ']) ++
        body lines mark stop (start + count) rest
  let both (h : Hunk) : Bool := h.removed != 0 && h.added != 0
  let first := group.map fun h => (h.start, h.removed, both h)
  let second := group.map fun h => (h.startOther, h.added, both h)
  Octets.say "***************\n*** " ++ contextRange s.start s.removed ++ Octets.say " ****\n" ++
    (if group.all (·.removed = 0) then [] else body a '-' (s.start + s.removed) s.start first) ++
    Octets.say "--- " ++ contextRange s.startOther s.added ++ Octets.say " ----\n" ++
    (if group.all (·.added = 0) then []
      else body b '+' (s.startOther + s.added) s.startOther second)

def scripted (b : List Octets) (h : Hunk) : Octets :=
  range h.start h.removed ++ [letter h, '\n'] ++
    (if h.added = 0 then [] else ((b.drop h.startOther).take h.added).flatten ++ Octets.say ".\n")

def inRcs (b : List Octets) (h : Hunk) : Octets :=
  (if h.removed = 0 then [] else
    'd' :: Octets.ofInt (h.start + 1 : Nat) ++ ' ' :: Octets.ofInt h.removed ++ ['\n']) ++
  (if h.added = 0 then [] else
    'a' :: Octets.ofInt (h.start + h.removed : Nat) ++ ' ' :: Octets.ofInt h.added ++ ['\n'] ++
      ((b.drop h.startOther).take h.added).flatten)

structure Side where
  name : Octets
  text : Octets
  time : Calendar.Moment

def told (m : Manner) (left right : Side) (a b : List Octets) (found : List Hunk) : Octets :=
  let title (mark : String) (i : Nat) (side : Side) : Octets :=
    Octets.say mark ++ ' ' :: (match m.labels[i]? with
      | some label => label
      | none => side.name ++ '\t' :: Calendar.shown side.time "%Y-%m-%d %H:%M:%S.%N %z") ++ ['\n']
  match m.style with
  | .plain => found.flatMap (plain a b)
  | .unified context =>
    title "---" 0 left ++ title "+++" 1 right ++ (grouped context found).flatMap (unified context a b)
  | .context context =>
    title "***" 0 left ++ title "---" 1 right ++ (grouped context found).flatMap (inContext context a b)
  | .script => found.reverse.flatMap (scripted b)
  | .rcs => found.flatMap (inRcs b)
  | .brief => Octets.say "Files " ++ left.name ++ Octets.say " and " ++ right.name ++ Octets.say " differ\n"

def worst (status : Nat) : Running Unit := do
  if (← get).status < status then fails status

def isEnded (text : Octets) : Bool := text = [] || text.getLast? = some '\n'

def texts (c : Call) (m : Manner) (header : Octets) (left right : Side) : Running Unit := do
  let isBinary (text : Octets) : Bool := !m.asText && text.contains '\x00'
  let same : Running Unit := do
    if m.tellsSame then
      print (Octets.say "Files " ++ left.name ++ Octets.say " and " ++ right.name ++
        Octets.say " are identical\n")
  if left.text = right.text then same
  else if isBinary left.text || isBinary right.text then
    worst 1
    let kind := if m.style = .brief then "Files " else "Binary files "
    print (Octets.say kind ++ left.name ++ Octets.say " and " ++ right.name ++ Octets.say " differ\n")
  else
    for side in [left, right] do
      if m.style = .script && !isEnded side.text then
        tell (c.name ++ Octets.say ": " ++ side.name ++ Octets.say ": No newline at end of file\n\n")
        worst 2
    let whole (text : Octets) : Octets :=
      if m.style = .script && !isEnded text then text ++ ['\n'] else text
    let a := Octets.lines (whole left.text)
    let b := Octets.lines (whole right.text)
    let found := hunks m.like m.style a b
    if found.isEmpty then same
    else
      worst 1
      print ((if m.style = .brief then [] else header) ++ told m left right a b found)

inductive Thing where
  | missing (error : SystemError)
  | directory (inode : Inode)
  | content (text : Octets) (time : Calendar.Moment) (inode : Option Inode)

def thing (c : Call) (path : Octets) : Running Thing := do
  if path = ['-'] then
    match ← readNamed c Files.endless path with
    | .ok text => return .content text (.ofMilliseconds (← get).files.now) none
    | .error error => return .missing error
  match ← there c path true with
  | .error error => return .missing error
  | .ok (inode, .directory) => return .directory inode
  | .ok (inode, _) =>
    match c.read Files.endless path with
    | .ok text => return .content text (Facts.moment (← get).files inode) (some inode)
    | .error error => return .missing error

def nothing : Calendar.Moment := .ofMilliseconds 0

mutual
def paths (c : Call) (m : Manner) : (fuel : Nat) → (inside : Bool) → Octets → Octets → Running Unit
  | 0, _, _, _ => return
  | fuel + 1, inside, left, right => do
    let header := if inside then
        Octets.say "diff" ++ m.flags.flatMap (' ' :: ·) ++ ' ' :: left ++ ' ' :: right ++ ['\n']
      else []
    let complainOf (path : Octets) (error : SystemError) : Running Unit := do
      tell (c.name ++ Octets.say ": " ++ path ++ Octets.say s!": {error.reason}\n")
      worst 2
    match ← thing c left, ← thing c right with
    | .missing a, .missing b => do
      complainOf left a
      complainOf right b
    | .missing error, .content text time _ =>
      if m.makesEmpty && error = .notFound then texts c m header ⟨left, [], nothing⟩ ⟨right, text, time⟩
      else complainOf left error
    | .content text time _, .missing error =>
      if m.makesEmpty && error = .notFound then texts c m header ⟨left, text, time⟩ ⟨right, [], nothing⟩
      else complainOf right error
    | .missing error, .directory b =>
      if m.makesEmpty && inside then directories c m fuel left right none (some b)
      else complainOf left error
    | .directory a, .missing error =>
      if m.makesEmpty && inside then directories c m fuel left right (some a) none
      else complainOf right error
    | .content a s i, .content b t j =>
      if i.isSome && i = j then
        if m.tellsSame then
          print (Octets.say "Files " ++ left ++ Octets.say " and " ++ right ++
            Octets.say " are identical\n")
      else texts c m header ⟨left, a, s⟩ ⟨right, b, t⟩
    | .directory a, .directory b =>
      if a = b then return
      else if inside && !m.isRecursive then
        print (Octets.say "Common subdirectories: " ++ left ++ Octets.say " and " ++ right ++ ['\n'])
      else directories c m fuel left right (some a) (some b)
    | .directory _, .content .. =>
      if inside then differentKinds left "a directory" right
      else paths c m fuel false (below left (lastName right)) right
    | .content .., .directory _ =>
      if inside then differentKinds left "a regular file" right
      else paths c m fuel false left (below right (lastName left))
where
  differentKinds (left : Octets) (kind : String) (right : Octets) : Running Unit := do
    worst 1
    let other := if kind = "a directory" then "a regular file" else "a directory"
    print (Octets.say "File " ++ left ++ Octets.say s!" is {kind} while file " ++ right ++
      Octets.say s!" is {other}\n")

def directories (c : Call) (m : Manner) : (fuel : Nat) → Octets → Octets → Option Inode →
    Option Inode → Running Unit
  | 0, _, _, _, _ => return
  | fuel + 1, left, right, a, b => do
    let files := (← get).files
    let names (d : Option Inode) : List Path.Segment := (d.map files.names).getD []
    let all := ((names a ++ names b).mergeSort fun x y => !(y < x : Bool)).eraseDups
    for name in all do
      let text := Octets.ofText name
      let only (path : Octets) : Running Unit := do
        worst 1
        print (Octets.say "Only in " ++ path ++ Octets.say ": " ++ text ++ ['\n'])
      let inLeft := (names a).contains name
      let inRight := (names b).contains name
      let goesOn := (inLeft && inRight) || m.makesEmpty
      if goesOn then paths c m fuel true (below left text) (below right text)
      else if inLeft then only left
      else only right
end

def options : Options := {
  flags := "qsrNibwBEZaetdnupcyTH"
  valued := "UCLWxIFX%"
  long := [("brief", 'q'), ("report-identical-files", 's'), ("recursive", 'r'), ("new-file", 'N'),
    ("ignore-case", 'i'), ("ignore-space-change", 'b'), ("ignore-all-space", 'w'),
    ("ignore-blank-lines", 'B'), ("ignore-trailing-space", 'Z'), ("text", 'a'), ("minimal", 'd'),
    ("ed", 'e'), ("rcs", 'n'), ("unified", 'u'), ("context", 'c'), ("label", 'L'),
    ("strip-trailing-cr", '~'), ("normal", '1'), ("color", '2')] }

def flagsOf (c : Call) : List Octets :=
  c.operands.filter fun text => text.head? = some '-' && 1 < text.length && text != ['-', '-']

def diff (c : Call) : Running Unit :=
  let wrong (text : Octets) : Running Unit := do
    complain c text 2
    tell (c.name ++ Octets.say ": Try '" ++ c.name ++ Octets.say " --help' for more information.\n")
  match options.parse c.operands.length c.operands with
  | .error text => wrong text
  | .ok given => do
    let context? (letter : Char) : Except Octets Nat :=
      match given.value? letter with
      | none | some [] => .ok 3
      | some text => if Octets.isNumber text then .ok (Octets.natural text) else .error text
    let has := given.has
    let like : Likeness := {
      foldsCase := has 'i', foldsBlanks := has 'b', ignoresBlanks := has 'w'
      ignoresTrailing := has 'Z', ignoresEmptyLines := has 'B', stripsReturns := has '~' }
    let style : Except Octets Style :=
      if has 'q' then .ok .brief
      else if has 'U' then (context? 'U').map .unified
      else if has 'C' then (context? 'C').map .context
      else if has 'u' then (context? 'u').map .unified
      else if has 'c' then (context? 'c').map .context
      else if has 'e' then .ok .script
      else if has 'n' then .ok .rcs
      else .ok .plain
    match style, given.operands with
    | .error text, _ => wrong (Octets.say "invalid context length " ++ quoted text)
    | _, [] => wrong (Octets.say "missing operand after " ++ quoted (c.arguments.getLast?.getD []))
    | _, [only] => wrong (Octets.say "missing operand after " ++ quoted only)
    | _, _ :: _ :: extra :: _ => wrong (Octets.say "extra operand " ++ quoted extra)
    | .ok style, [left, right] =>
      let m : Manner := {
        like, style, labels := (given.options.filter (·.1 = 'L')).map (·.2)
        isRecursive := has 'r', makesEmpty := has 'N', tellsSame := has 's', asText := has 'a'
        initialTab := has 'T', flags := flagsOf c }
      paths c m 40 false left right

end SvelteTransform.Sandbox.Tools.Compare
