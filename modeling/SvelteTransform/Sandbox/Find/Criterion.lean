import SvelteTransform.Sandbox.Numeral
import SvelteTransform.Sandbox.Pattern
import SvelteTransform.Sandbox.Regex

/-! What is asked about everything in a tree of files, and what is to be done with it. -/
namespace SvelteTransform.Sandbox.Find

inductive Amount where
  | exactly (n : Nat)
  | more (n : Nat)
  | less (n : Nat)
  deriving DecidableEq, Repr

def Amount.fits : Amount → Nat → Bool
  | .exactly n, m => m = n
  | .more n, m => n < m
  | .less n, m => m < n

inductive Marks where
  | exactly (bits : Nat)
  | all (bits : Nat)
  | any (bits : Nat)
  deriving DecidableEq, Repr

def Marks.fits : Marks → Nat → Bool
  | .exactly bits, mode => mode = bits
  | .all bits, mode => mode &&& bits = bits
  | .any bits, mode => bits = 0 || mode &&& bits != 0

inductive Criterion where
  | named (pattern : Pattern) (folds : Bool)
  | path (pattern : Pattern) (folds : Bool)
  | spelled (r : Regex) (folds : Bool)
  | leadsTo (pattern : Pattern)
  | kind (letters : List Char) (follows : Bool)
  | empty
  | runnable
  | always (b : Bool)
  | size (amount : Amount) (unit : Nat)
  | marked (marks : Marks)
  | old (amount : Amount) (unit : Nat)
  | newer (path : Octets)
  | since (time : Octets)
  | sameAs (path : Octets)
  | linked (amount : Amount)
  | numbered (amount : Amount)
  | list
  | print (lineEnd : Char)
  | printFormatted (format : Octets)
  | remove
  | prune
  | quit
  | start (inside : Bool) (command : List Octets)
  | gather (number : Nat) (command : List Octets)
  | no (c : Criterion)
  | both (first second : Criterion)
  | either (first second : Criterion)
  | after (first second : Criterion)
  deriving Inhabited

def Criterion.acts : Criterion → Bool
  | .print _ | .printFormatted _ | .list | .remove | .start .. | .gather .. => true
  | .no c => c.acts
  | .both a b | .either a b | .after a b => a.acts || b.acts
  | _ => false

inductive Follows where
  | never
  | atStart
  | always
  deriving DecidableEq, Repr

structure Asked where
  follows : Follows := .never
  starts : List Octets := []
  criterion : Criterion := .always true
  least : Nat := 0
  most : Option Nat := none
  insideFirst : Bool := false

structure Reader where
  left : List Octets
  asked : Asked := {}
  gathers : Nat := 0

abbrev Read := StateT Reader (Except Octets)

def refuse {α : Type} (text : Octets) : Read α := throw text

def say {α : Type} (text : String) : Read α := refuse (Octets.say text)

def advance : Read Unit := modify fun r => { r with left := r.left.tail }

def isNext (words : List String) : Read Bool := do
  return (← get).left.head?.any fun word => words.any (·.toList = word)

def inQuotes (text : Octets) : Octets := '\x60' :: text ++ ['\'']

def value (option : Octets) : Read Octets := do
  match (← get).left with
  | text :: _ =>
    advance
    return text
  | [] => refuse (Octets.say "missing argument to " ++ inQuotes option)

def pattern (text : Octets) (folds : Bool) : Pattern :=
  Pattern.ofMarked ((if folds then text.map Char.toLower else text).map (·, true))

def amount? (text : Octets) : Option (Amount × Octets) :=
  let (make, rest) : (Nat → Amount) × Octets := match text with
    | '+' :: rest => (.more, rest)
    | '-' :: rest => (.less, rest)
    | rest => (.exactly, rest)
  let digits := rest.takeWhile Octets.isDigit
  if digits = [] then none else some (make (Octets.natural digits), rest.drop digits.length)

def unit? : Octets → Option Nat
  | [] | ['b'] => some 512
  | ['c'] => some 1
  | ['w'] => some 2
  | ['k'] => some 1024
  | ['M'] => some (1024 * 1024)
  | ['G'] => some (1024 * 1024 * 1024)
  | _ => none

def symbolicBits (text : Octets) : Option Nat :=
  (Path.cutAt ',' text).foldlM (fun bits clause =>
    let users := clause.takeWhile ("ugoa".toList.contains ·)
    match clause.drop users.length with
    | sign :: letters =>
      if !("+=".toList.contains sign) || !(letters.all ("rwx".toList.contains ·)) then none
      else
        let three := (if letters.contains 'r' then 4 else 0) +
          (if letters.contains 'w' then 2 else 0) + (if letters.contains 'x' then 1 else 0)
        let holds (u : Char) : Bool := users = [] || users.contains 'a' || users.contains u
        some (bits ||| (if holds 'u' then three * 64 else 0) ||| (if holds 'g' then three * 8 else 0) |||
          (if holds 'o' then three else 0))
    | [] => none) 0

def marks? (text : Octets) : Option Marks :=
  let (make, rest) : (Nat → Marks) × Octets := match text with
    | '-' :: rest => (.all, rest)
    | '/' :: rest => (.any, rest)
    | rest => (.exactly, rest)
  if rest != [] && rest.all fun c => '0' ≤ c && c ≤ '7' then
    some (make (Numeral.valueOf 8 rest))
  else (symbolicBits rest).map make

def command (option : Octets) : List Octets → List Octets → Read (List Octets × Bool)
  | _, [] => refuse (Octets.say "missing argument to " ++ inQuotes option)
  | before, [';'] :: rest => do
    modify ({ · with left := rest })
    return (before.reverse, false)
  | before, word :: rest =>
    if word = ['+'] && before.head? = some ['\x7b', '\x7d'] then do
      modify ({ · with left := rest })
      return (before.reverse, true)
    else command option (word :: before) rest

def started (option : Octets) (inside : Bool) : Read Criterion := do
  let (words, gathers) ← command option [] (← get).left
  if words = [] then refuse (Octets.say "missing argument to " ++ inQuotes option)
  if !gathers then return .start inside words
  let number := (← get).gathers
  modify ({ · with gathers := number + 1 })
  return .gather number words.dropLast

def depth (option : Octets) : Read Nat := do
  let text ← value option
  if Octets.isNumber text then return Octets.natural text
  refuse (Octets.say "Expected a positive decimal integer argument to " ++ option ++
    Octets.say ", but got '" ++ text ++ ['\''])

def ask (change : Asked → Asked) : Read Criterion := do
  modify fun r => { r with asked := change r.asked }
  return .always true

def plain (option : Octets) : Read Criterion := do
  let text : Read Octets := value option
  let counted (make : Amount → Criterion) : Read Criterion := do
    let given ← text
    match amount? given with
    | some (amount, []) => return make amount
    | _ => refuse (Octets.say "invalid argument \x60" ++ given ++ Octets.say "' to \x60" ++
        option ++ ['\''])
  match String.ofList option with
  | "-name" => return .named (pattern (← text) false) false
  | "-iname" => return .named (pattern (← text) true) true
  | "-path" | "-wholename" => return .path (pattern (← text) false) false
  | "-ipath" | "-iwholename" => return .path (pattern (← text) true) true
  | "-lname" => return .leadsTo (pattern (← text) false)
  | "-regex" | "-iregex" => do
    let folds := option.take 2 = ['-', 'i']
    let given ← text
    match Regex.ofText? false given with
    | some r => return .spelled r folds
    | none => refuse (Octets.say "failed to compile regular expression '" ++ given ++ ['\''])
  | "-type" | "-xtype" => do
    let given ← text
    for letter in Path.cutAt ',' given do
      unless letter.length = 1 && "bcdpflsD".toList.contains (letter.headD ' ') do
        refuse (Octets.say "Unknown argument to " ++ option ++ Octets.say ": " ++ given.take 1)
    return .kind ((Path.cutAt ',' given).flatten) (option = "-xtype".toList)
  | "-empty" => return .empty
  | "-executable" => return .runnable
  | "-readable" | "-writable" | "-true" => return .always true
  | "-false" => return .always false
  | "-size" => do
    let given ← text
    match amount? given with
    | some (amount, rest) =>
      match unit? rest with
      | some unit => return .size amount unit
      | none => refuse (Octets.say "invalid -size type \x60" ++ given.drop (given.length - 1) ++ ['\''])
    | none => refuse (Octets.say "invalid -size type \x60" ++ given.drop (given.length - 1) ++ ['\''])
  | "-perm" => do
    let given ← text
    match marks? given with
    | some marks => return .marked marks
    | none => refuse (Octets.say "invalid mode '" ++ given ++ ['\''])
  | "-mtime" | "-ctime" | "-atime" => counted (.old · 86400000)
  | "-mmin" | "-cmin" | "-amin" => counted (.old · 60000)
  | "-newer" | "-anewer" | "-cnewer" | "-newermm" => return .newer (← text)
  | "-newermt" => return .since (← text)
  | "-samefile" => return .sameAs (← text)
  | "-links" => counted .linked
  | "-inum" => counted .numbered
  | "-ls" => return .list
  | "-user" | "-group" => return .always (["root", "0"].contains (String.ofList (← text)))
  | "-uid" | "-gid" => counted fun amount => .always (amount.fits 0)
  | "-nouser" | "-nogroup" => return .always false
  | "-maxdepth" => do
    let n ← depth option
    ask ({ · with most := some n })
  | "-mindepth" => do
    let n ← depth option
    ask ({ · with least := n })
  | "-depth" | "-d" => ask ({ · with insideFirst := true })
  | "-follow" => ask ({ · with follows := .always })
  | "-xdev" | "-mount" | "-noleaf" | "-ignore_readdir_race" => return .always true
  | "-print" => return .print '\n'
  | "-print0" => return .print '\x00'
  | "-printf" => return .printFormatted (← text)
  | "-delete" => do
    let _ ← ask ({ · with insideFirst := true })
    return .remove
  | "-prune" => return .prune
  | "-quit" => return .quit
  | "-exec" => started option false
  | "-execdir" => started option true
  | _ =>
    if option.head? = some '-' then refuse (Octets.say "unknown predicate " ++ inQuotes option)
    else refuse (Octets.say "paths must precede expression: " ++ inQuotes option)

mutual
def listed : (fuel : Nat) → Read Criterion
  | 0 => say "too many criteria"
  | fuel + 1 => do
    let mut found ← alternatives fuel
    for _ in List.range (← get).left.length do
      if ← isNext [","] then
        advance
        found := .after found (← alternatives fuel)
      else break
    return found

def alternatives : (fuel : Nat) → Read Criterion
  | 0 => say "too many criteria"
  | fuel + 1 => do
    let first ← conjunction fuel
    if ← isNext ["-o", "-or"] then
      let operator := ((← get).left.headD [])
      advance
      if (← get).left.isEmpty then
        refuse (Octets.say "expected an expression after '" ++ operator ++ ['\''])
      return .either first (← alternatives fuel)
    return first

def conjunction : (fuel : Nat) → Read Criterion
  | 0 => say "too many criteria"
  | fuel + 1 => do
    let mut found ← single fuel
    for _ in List.range (← get).left.length do
      if (← get).left.isEmpty || (← isNext ["-o", "-or", ",", ")"]) then break
      if ← isNext ["-a", "-and"] then
        let operator := ((← get).left.headD [])
        advance
        if (← get).left.isEmpty then
          refuse (Octets.say "expected an expression after '" ++ operator ++ ['\''])
      found := .both found (← single fuel)
    return found

def single : (fuel : Nat) → Read Criterion
  | 0 => say "too many criteria"
  | fuel + 1 => do
    match (← get).left with
    | [] => return .always true
    | option :: rest =>
      modify ({ · with left := rest })
      match String.ofList option with
      | "!" | "-not" =>
        if rest.isEmpty then
          refuse (Octets.say "expected an expression after '" ++ option ++ ['\''])
        return .no (← single fuel)
      | "-o" | "-or" | "-a" | "-and" | "," =>
        refuse (Octets.say "invalid expression; you have used a binary operator '" ++ option ++
          Octets.say "' with nothing before it.")
      | ")" => say "you have too many ')'"
      | "(" =>
        if ← isNext [")"] then say "invalid expression; empty parentheses are not allowed."
        let inside ← listed fuel
        unless ← isNext [")"] do
          say "invalid expression; I was expecting to find a ')' somewhere but did not see one."
        advance
        return inside
      | _ => plain option
end

def expression : Read Criterion := do
  if (← get).left.isEmpty then return .always true
  let found ← listed (4 * (← get).left.length + 8)
  if ← isNext [")"] then say "you have too many ')'"
  return found

def Asked.ofArguments (arguments : List Octets) : Except Octets Asked := do
  let flags := arguments.takeWhile fun text => [['-', 'P'], ['-', 'H'], ['-', 'L']].contains text
  let follows : Follows := match flags.getLast? with
    | some ['-', 'L'] => .always
    | some ['-', 'H'] => .atStart
    | _ => .never
  let rest := arguments.drop flags.length
  let isPath (text : Octets) : Bool :=
    !(text.head? = some '-' && 1 < text.length) && !([['!'], ['(']].contains text)
  let starts := rest.takeWhile isPath
  let (criterion, r) ← expression.run
    { left := rest.drop starts.length
      asked := { follows, starts := if starts.isEmpty then [['.']] else starts } }
  return { r.asked with
    criterion := if criterion.acts then criterion else .both criterion (.print '\n') }

end SvelteTransform.Sandbox.Find
