import SvelteTransform.Sandbox.Shell.Builtin
import SvelteTransform.Sandbox.Shell.Larger.Condition
import SvelteTransform.Sandbox.Shell.Larger.Input

/-! Commands that a shell of the larger dialect performs itself, those apart that run others. -/
namespace SvelteTransform.Sandbox.Shell

def largerNames : List String :=
  [".", ":", "[", "alias", "bg", "bind", "break", "builtin", "caller", "cd", "command", "compgen",
   "complete", "compopt", "continue", "declare", "dirs", "disown", "echo", "enable", "eval",
   "exec", "exit", "export", "false", "fc", "fg", "getopts", "hash", "help", "history", "jobs",
   "kill", "let", "local", "logout", "mapfile", "popd", "printf", "pushd", "pwd", "read",
   "readarray", "readonly", "return", "set", "shift", "shopt", "source", "suspend", "test",
   "times", "trap", "true", "type", "typeset", "ulimit", "umask", "unalias", "unset", "wait"]

def State.performs (s : State) (name : Octets) : Bool :=
  let name := String.ofList name
  largerNames.contains name && !s.habits.disabled.contains name

def failLarger {α : Type} (text : Octets) (status : Nat := 1) : Action α := fail text status

def echoLarger (arguments : List Octets) : Action Unit := do
  let isOption (text : Octets) : Bool :=
    1 < text.length && text.head? = some '-' && text.tail.all ['n', 'e', 'E'].contains
  let letters := (arguments.takeWhile isOption).flatMap List.tail
  let text := [' '].intercalate (arguments.dropWhile isOption)
  let isUsual := (← get).isOn "xpg_echo"
  let resolves : Bool := match (letters.filter (· != 'n')).getLast? with
    | some letter => letter = 'e'
    | none => isUsual
  let (text, goesOn) := if resolves then Escaped.unescaped .zero false (text.length + 1) text
    else (text, true)
  printFor (Octets.say "echo")
    (if goesOn && !letters.contains 'n' then text ++ ['\n'] else text)

def printfLarger (arguments : List Octets) : Action Unit := do
  let (letters, rest) ← optionsOf "printf" "v:" arguments
  match rest with
  | [] => showUsage "printf"
  | format :: arguments =>
    let target := (letters.getLast?).map (·.2)
    if let some name := target then
      unless (targetOf name).isSome do
        invalidName name
        finish 2
        throw .failed
    let now : Int := ((← get).world.timed.files.now / 1000 : Nat)
    let manner : Tools.Printf.Manner := { style := .larger, quotes := Quoting.backslashed, now }
    let outcome := Tools.Printf.run manner format arguments
    for text in outcome.complaints do complain text
    match target.bind targetOf with
    | some target =>
      fill target outcome.output
      finish outcome.status
    | none => printFor (Octets.say "printf") outcome.output outcome.status

def walkedTo (links : Bool) (target : Octets) :
    Action (Except SystemError (Inode × Option Octets)) := do
  let s ← get
  match walked s links target with
  | some found => return .ok found
  | none =>
    return match s.world.files.find s.here (pathOf target) with
      | .ok (.node ..) => .error .notDirectory
      | .ok (.absent _) => .error .notFound
      | .error error => .error error

def changeDirectoryLarger (arguments : List Octets) : Action Unit := do
  let (letters, operands) ← optionsOf "cd" "LPe@" arguments
  let links := (letters.filter fun (c, _) => c = 'L' || c = 'P').getLast?.any (·.1 = 'P') ||
    (← get).has 'P'
  let s ← get
  if 1 < operands.length then failLarger (Octets.say "too many arguments")
  let (target, tells) ← match operands with
    | [] => match s.value? "HOME".toList with
      | some home => pure (home, false)
      | none => failLarger (Octets.say "HOME not set")
    | target :: _ =>
      if target = ['-'] then match s.value? "OLDPWD".toList with
        | some old => pure (old, true)
        | none => failLarger (Octets.say "OLDPWD not set")
      else pure (target, false)
  finish 0
  let onPath := if target = [] || ['/', '.'].contains (target.headD '/') then none
    else do
      let directories := Path.cutAt ':' (← s.value? "CDPATH".toList)
      (directories.filter (· != [])).findSome? fun d => walked s links (d ++ '/' :: target)
  match onPath with
  | some (inode, directory) =>
    enter inode directory
    say ((← get).directory ++ ['\n'])
  | none =>
    match ← walkedTo links (if target = [] then ['.'] else target) with
    | .ok (inode, directory) =>
      enter inode directory
      if tells then say ((← get).directory ++ ['\n'])
    | .error error => failLarger (target ++ Octets.say s!": {error.reason}")

def shortened (s : State) (directory : Octets) : Octets :=
  match s.value? "HOME".toList with
  | some home =>
    if directory = home then ['~']
    else if home != [] && (home ++ ['/']).isPrefixOf directory then
      '~' :: directory.drop home.length
    else directory
  | none => directory

def setStack (stack : List Octets) : Action Unit :=
  modify fun s => { s with habits := { s.habits with stack } }

def showStack (arguments : List Octets) : Action Unit := do
  let isPlace (text : Octets) : Bool :=
    text.head?.any ['+', '-'].contains && Octets.isNumber text.tail
  let has (c : Char) : Bool := arguments.contains ['-', c]
  let operands := arguments.filter isPlace
  for text in arguments do
    if !isPlace text && !(["-c", "-l", "-p", "-v", "--"].any (·.toList = text)) then
      complain (text ++ Octets.say ": invalid number")
      showUsage "dirs"
  finish 0
  if has 'c' then setStack []
  else
    let s ← get
    let all := (s.directory :: s.habits.stack).map fun d => if has 'l' then d else shortened s d
    match operands with
    | text :: _ =>
      let n := Octets.natural text.tail
      let i := if text.head? = some '-' then all.length - 1 - n else n
      match all[i]? with
      | some directory => say (directory ++ ['\n'])
      | none => failLarger (text.tail ++ Octets.say ": directory stack index out of range")
    | [] =>
      say <| if has 'v' then (all.mapIdx fun i d =>
          let n := Octets.ofInt i
          List.replicate (2 - n.length) ' ' ++ n ++ ' ' :: ' ' :: d ++ ['\n']).flatten
        else if has 'p' then all.flatMap (· ++ ['\n'])
        else [' '].intercalate all ++ ['\n']

def stackPlace? (size : Nat) (text : Octets) : Option Nat :=
  match text with
  | '+' :: digits => if Octets.isNumber digits then some (Octets.natural digits) else none
  | '-' :: digits => if Octets.isNumber digits then some (size - 1 - Octets.natural digits) else none
  | _ => none

def pushDirectory (arguments : List Octets) : Action Unit := do
  let stays := arguments.head? = some ['-', 'n']
  let operands := if stays then arguments.tail else arguments
  let s ← get
  let all := s.directory :: s.habits.stack
  let goTo (stack : List Octets) : Action Unit := do
    match stack with
    | [] => pure ()
    | first :: rest =>
      match ← walkedTo false first with
      | .ok (inode, directory) =>
        enter inode directory
        setStack rest
        finish 0
        showStack []
      | .error error => failLarger (first ++ Octets.say s!": {error.reason}")
  match operands with
  | [] =>
    match s.habits.stack with
    | [] => failLarger (Octets.say "no other directory")
    | next :: rest => goTo (next :: s.directory :: rest)
  | text :: _ =>
    match stackPlace? all.length text with
    | some n =>
      if all.length ≤ n then
        failLarger (text ++ Octets.say ": directory stack index out of range")
      goTo (all.drop n ++ all.take n)
    | none =>
      if stays then
        setStack (text :: s.habits.stack)
        finish 0
        showStack []
      else goTo (text :: all)

def popDirectory (arguments : List Octets) : Action Unit := do
  let stays := arguments.head? = some ['-', 'n']
  let operands := if stays then arguments.tail else arguments
  let s ← get
  let all := s.directory :: s.habits.stack
  if s.habits.stack = [] then failLarger (Octets.say "directory stack empty")
  let n ← match operands with
    | [] => pure (if stays then 1 else 0)
    | text :: _ => match stackPlace? all.length text with
      | some n => pure n
      | none => failLarger (text ++ Octets.say ": invalid argument")
  if all.length ≤ n then
    failLarger (operands.headD [] ++ Octets.say ": directory stack index out of range")
  let left := all.take n ++ all.drop (n + 1)
  if n = 0 then
    match ← walkedTo false (left.headD []) with
    | .ok (inode, directory) => enter inode directory
    | .error error => failLarger (left.headD [] ++ Octets.say s!": {error.reason}")
  setStack left.tail
  finish 0
  showStack []

def allLocated (s : State) (name : Octets) : List Octets :=
  let runs (path : Octets) : Bool := s.world.files.runs s.here (pathOf path)
  if name.contains '/' then if runs name then [name] else []
  else ((Path.cutAt ':' ((s.value? "PATH".toList).getD [])).map
    (Program.inDirectory · name)).filter runs

def meanings (s : State) (passesFunctions : Bool) (name : Octets) :
    List (String × Octets × Octets) :=
  let sentence (text : String) : Octets := name ++ Octets.say text
  let aliased : List (String × Octets × Octets) :=
    if !s.isOn "expand_aliases" then []
    else match s.aliases.lookup name with
      | some value => [("alias", sentence s!" is aliased to \x60" ++ value ++ ['\''],
          Octets.say "alias " ++ name ++ '=' :: Quoting.single value)]
      | none => []
  let keywords := if (Script.reserved .bash).contains (String.ofList name) then
    [("keyword", sentence " is a shell keyword", name)] else []
  let functions := if !passesFunctions && (s.functions.lookup name).isSome then
    [("function", sentence " is a function", name)] else []
  let own := if s.performs name then [("builtin", sentence " is a shell builtin", name)] else []
  let files := (allLocated s name).map fun path => ("file", name ++ Octets.say " is " ++ path, path)
  aliased ++ keywords ++ functions ++ own ++ files

def typeLarger (arguments : List Octets) : Action Unit := do
  let (letters, names) ← optionsOf "type" "afptP" arguments
  let has (c : Char) : Bool := letters.any (·.1 = c)
  finish 0
  for name in names do
    let s ← get
    let found := meanings s (has 'f') name
    let found := if has 'P' then found.filter (·.1 = "file")
      else if has 'p' && !has 'a' then (found.take 1).filter (·.1 = "file")
      else if has 'p' then found.filter (·.1 = "file")
      else found
    if found = [] then
      unless has 't' || has 'p' || has 'P' do complain (name ++ Octets.say ": not found")
      unless has 'p' && (meanings s (has 'f') name) != [] do finish 1
    for (kind, sentence, path) in if has 'a' then found else found.take 1 do
      say ((if has 't' then Octets.say kind
        else if has 'p' || has 'P' then path else sentence) ++ ['\n'])

def describeLarger (inSentence : Bool) (names : List Octets) : Action Unit := do
  finish 0
  for name in names do
    match meanings (← get) false name with
    | (_, sentence, path) :: _ => say ((if inSentence then sentence else path) ++ ['\n'])
    | [] =>
      if inSentence then complain (name ++ Octets.say ": not found")
      finish 1

def aliasesLarger (arguments : List Octets) : Action Unit := do
  let (_, arguments) ← optionsOf "alias" "p" arguments
  finish 0
  let line (a : Octets × Octets) : Octets :=
    Octets.say "alias " ++ a.1 ++ '=' :: Quoting.single a.2 ++ ['\n']
  if arguments = [] then
    for a in (← get).aliases.mergeSort fun a b => !(b.1 < a.1 : Bool) do say (line a)
  for argument in arguments do
    let aliases := (← get).aliases
    let name := argument.takeWhile (· != '=')
    if name.length < argument.length then
      let value := argument.drop (name.length + 1)
      modify ({ · with aliases := (name, value) :: aliases.filter (·.1 != name) })
    else match aliases.lookup name with
      | some value => say (line (name, value))
      | none =>
        complain (name ++ Octets.say ": not found")
        finish 1

def dropAliasesLarger (arguments : List Octets) : Action Unit := do
  let (letters, names) ← optionsOf "unalias" "a" arguments
  finish 0
  if letters != [] then modify ({ · with aliases := [] })
  else if names = [] then showUsage "unalias"
  else for name in names do
    let aliases := (← get).aliases
    if (aliases.lookup name).isNone then
      complain (name ++ Octets.say ": not found")
      finish 1
    modify ({ · with aliases := aliases.filter (·.1 != name) })

def enableBuiltins (arguments : List Octets) : Action Unit := do
  let (letters, names) ← optionsOf "enable" "adnpsf:" arguments
  let isOff := letters.any (·.1 = 'n')
  finish 0
  if names = [] then
    let off := (← get).habits.disabled
    for name in largerNames do
      if off.contains name = isOff then
        say (Octets.say ((if isOff then "enable -n " else "enable ") ++ name ++ "\n"))
  for name in names do
    let text := String.ofList name
    if !largerNames.contains text then
      complain (name ++ Octets.say ": not a shell builtin")
      finish 1
    else modify fun s =>
      let others := s.habits.disabled.filter (· != text)
      { s with habits := { s.habits with disabled := if isOff then text :: others else others } }

def calculateAll (arguments : List Octets) : Action Unit := do
  let arguments := if arguments.head? = some ['-', '-'] then arguments.tail else arguments
  if arguments = [] then failLarger (Octets.say "expression expected")
  let mut last : Int := 0
  for text in arguments do last ← computed text
  finish (if last = 0 then 1 else 0)

def statusLarger (arguments : List Octets) : Action Unit := do
  let arguments := if arguments.head? = some ['-', '-'] then arguments.tail else arguments
  match arguments with
  | [] => pure ()
  | [text] =>
    match Octets.integer? text with
    | some n => finish (n % 256).toNat
    | none =>
      complain (text ++ Octets.say ": numeric argument required")
      finish 2
  | text :: _ =>
    match Octets.integer? text with
    | some _ =>
      complain (Octets.say "too many arguments")
      finish 1
      throw .exited
    | none =>
      complain (text ++ Octets.say ": numeric argument required")
      finish 2

def shiftLarger (arguments : List Octets) : Action Unit := do
  let n : Int ← match arguments with
    | [] => pure 1
    | [text] => match Octets.integer? text with
      | some n => pure n
      | none => failLarger (text ++ Octets.say ": numeric argument required")
    | _ =>
      complain (Octets.say "too many arguments")
      finish 1
      throw .exited
  if n < 0 then failLarger (Octets.ofInt n ++ Octets.say ": shift count out of range")
  let s ← get
  if s.arguments.length < n then
    if s.isOn "shift_verbose" then
      complain (Octets.ofInt n ++ Octets.say ": shift count out of range")
    finish 1
  else set { s with arguments := s.arguments.drop n.toNat, status := 0 }

def leaveLarger (again : Bool) (arguments : List Octets) : Action Unit := do
  let loops := (← get).loops
  if loops = 0 then
    complain (Octets.say "only meaningful in a \x60for', \x60while', or \x60until' loop")
    finish 0
  else
    let n : Int ← match arguments with
      | [] => pure 1
      | text :: _ => match Octets.integer? text with
        | some n => pure n
        | none =>
          complain (text ++ Octets.say ": numeric argument required")
          finish 128
          throw .exited
    if n ≤ 0 then
      complain (Octets.ofInt n ++ Octets.say ": loop count out of range")
      finish 1
      throw (.left loops false)
    finish 0
    throw (.left (min n.toNat loops) again)

def listedSignals : List (Nat × String) :=
  let real := (List.range 31).map fun i => (34 + i, i)
  (Signal.names.map fun (name, n) => (n, "SIG" ++ name)) ++ real.map fun (n, i) =>
    (n, if i = 0 then "SIGRTMIN" else if i ≤ 15 then s!"SIGRTMIN+{i}"
      else if n = 64 then "SIGRTMAX" else s!"SIGRTMAX-{64 - n}")

def signalTable : Octets :=
  let cells := listedSignals.map fun (n, name) =>
    Octets.say (if n < 10 then s!" {n}) {name}" else s!"{n}) {name}")
  (cells.mapIdx fun i cell =>
    cell ++ (if (i + 1) % 5 = 0 then ['\n'] else ['\t'])).flatten ++ ['\n']

def signalNamed (text : Octets) : Option Nat :=
  let upper := text.map Char.toUpper
  if Octets.isNumber text then
    if Octets.natural text ≤ 64 then some (Octets.natural text) else none
  else if upper = "EXIT".toList then some 0
  else (listedSignals.find? fun (_, name) =>
    name.toList = upper || name.toList.drop 3 = upper).map (·.1)

def listSignalsLarger (arguments : List Octets) : Action Unit := do
  finish 0
  if arguments = [] then say signalTable
  for text in arguments do
    let wrong : Action Unit := do
      complain (text ++ Octets.say ": invalid signal specification")
      finish 1
    if Octets.isNumber text then
      let n := Octets.natural text
      let n := if 128 < n then n - 128 else n
      match listedSignals.lookup n with
      | some name => say (Octets.say ((name.drop 3).toString ++ "\n"))
      | none => if n = 0 then say "EXIT\n".toList else wrong
    else match signalNamed text with
      | some n => say (Octets.ofInt n ++ ['\n'])
      | none => wrong

def sendAllLarger (signal : Nat) (targets : List Octets) : Action Unit := do
  let targets := if targets.head? = some ['-', '-'] then targets.tail else targets
  if targets = [] then showUsage "kill"
  finish 0
  for target in targets do
    match target with
    | '%' :: text =>
      match job? (← get) text with
      | some job => send signal job.process
      | none =>
        complain (target ++ Octets.say ": no such job")
        finish 1
    | target =>
      let digits := if target.head? = some '-' then target.tail else target
      if !Octets.isNumber digits then
        complain (target ++ Octets.say ": arguments must be process or job IDs")
        finish 1
      else
        let n := Octets.natural digits
        let own := (← get).number
        send signal (if n = 0 then own else n)

def killLarger (arguments : List Octets) : Action Unit := do
  let named (name : Octets) (targets : List Octets) : Action Unit := do
    match signalNamed name with
    | some signal => sendAllLarger signal targets
    | none => failLarger (name ++ Octets.say ": invalid signal specification")
  match arguments with
  | [] => showUsage "kill"
  | ['-', 'l'] :: rest | ['-', 'L'] :: rest => listSignalsLarger rest
  | ['-', c] :: rest =>
    if c = 's' || c = 'n' then
      match rest with
      | name :: targets => named name targets
      | [] => failLarger ('-' :: c :: Octets.say ": option requires an argument")
    else if c = '-' then sendAllLarger 15 rest
    else named [c] rest
  | ('-' :: name) :: rest => named name rest
  | targets => sendAllLarger 15 targets

def listJobsLarger (arguments : List Octets) : Action Unit := do
  let (letters, operands) ← optionsOf "jobs" "lpnrs" arguments
  let letters := letters.map (·.1)
  let shown (job : Job) : Action Unit := do
    let isRunning := standingLarger (← get) job = "Running"
    let isLeftOut := (letters.contains 'r' && !isRunning) || letters.contains 's'
    unless isLeftOut do showJobLarger (letters.filter ['l', 'p'].contains).getLast? job
  finish 0
  if operands = [] then
    let jobs := (← get).jobs.filter fun job => !job.waited
    for job in jobs.mergeSort fun a b => a.slot ≤ b.slot do shown job
  for operand in operands do
    match job? (← get) (if operand.head? = some '%' then operand.tail else operand) with
    | some job => shown job
    | none =>
      complain (operand ++ Octets.say ": no such job")
      finish 1

def waitLarger (arguments : List Octets) : Action Unit := do
  let (letters, targets) ← optionsOf "wait" "fnp:" arguments
  let s ← get
  finish 0
  if letters.any (·.1 = 'n') then
    match s.jobs.reverse.find? (!·.waited) with
    | some job => waitFor job
    | none => finish 127
  else if targets = [] then
    waitForAll s.jobs
    modify fun s => { s with jobs := s.jobs.filter fun job => !s.world.hasEnded job.process }
  for target in targets do
    match target with
    | '%' :: text =>
      match job? (← get) text with
      | some job => waitFor job
      | none =>
        complain (target ++ Octets.say ": no such job")
        finish 127
    | target =>
      if !Octets.isNumber target then
        complain ('\x60' :: target ++ Octets.say "': not a pid or valid job spec")
        finish 1
      else
        let n := Octets.natural target
        match (← get).jobs.find? (·.process = n) with
        | some job => waitFor job
        | none =>
          complain (Octets.say "pid " ++ target ++ Octets.say " is not a child of this shell")
          finish 127

def eventNames : List String := ["DEBUG", "ERR", "RETURN"]

def trapLine (name text : Octets) : Octets :=
  Octets.say "trap -- " ++ Quoting.single text ++ ' ' :: name ++ ['\n']

def showTraps (wanted : Octets → Bool) : Action Unit := do
  let s ← get
  for (signal, text) in s.traps.mergeSort fun a b => a.1 ≤ b.1 do
    let name := if signal = 0 then "EXIT".toList
      else ((listedSignals.lookup signal).getD "").toList
    if wanted name then say (trapLine name text)
  for name in eventNames do
    if let some text := s.habits.events.lookup name then
      if wanted name.toList then say (trapLine name.toList text)

def trapLarger (arguments : List Octets) : Action Unit := do
  let (letters, rest) ← match arguments with
    | ['-'] :: _ => pure ([], arguments)
    | _ => optionsOf "trap" "lp" arguments
  finish 0
  let full (text : Octets) : Octets := match signalNamed text with
    | some 0 => "EXIT".toList
    | some n => ((listedSignals.lookup n).getD "").toList
    | none => text.map Char.toUpper
  if letters.any (·.1 = 'l') then say signalTable
  else if letters.any (·.1 = 'p') then
    showTraps fun name => rest = [] || (rest.map full).contains name
  else match rest with
    | [] => showTraps fun _ => true
    | first :: more =>
      let resets := more = [] || (signalNamed first).isSome && Octets.isNumber first
      let action := if resets || first = ['-'] then none else some first
      for text in if resets then first :: more else more do
        let event := String.ofList (text.map Char.toUpper)
        if eventNames.contains event then
          modify fun s =>
            let others := s.habits.events.filter (·.1 != event)
            let events := match action with
              | some action => (event, action) :: others
              | none => others
            { s with habits := { s.habits with events } }
        else match signalNamed text with
          | some signal => trapSignal action signal
          | none =>
            complain (text ++ Octets.say ": invalid signal specification")
            finish 1

def nextOptionLarger (arguments : List Octets) : Action Unit := do
  match arguments with
  | letters :: name :: rest =>
    let s ← get
    let words := if rest = [] then s.arguments else rest
    let count := ((s.value? optionIndex).map Octets.natural).getD 1
    let offset := if s.optionPlace.1 = count then max 1 s.optionPlace.2 else 1
    let silent := letters.head? = some ':'
    let told (count offset : Nat) (found : Octets) (value : Option Octets) (status : Nat) :
        Action Unit := do
      assign optionIndex (Octets.ofInt count)
      modify ({ · with optionPlace := (count, offset) })
      match value with
      | some value => assign "OPTARG".toList value
      | none => modify (·.drop "OPTARG".toList)
      if Octets.isName name then
        tryCatch (do
          assign name found
          finish status) fun
            | .discarded => finish 2
            | halt => throw halt
      else
        invalidName name
    let warn (text : String) (c : Char) : Action Unit := do
      if (s.value? "OPTERR".toList) != some ['0'] then
        let _ ← emit 2 (s.name ++ Octets.say s!": {text} -- " ++ [c, '\n'])
    let word := (words[count - 1]?).getD []
    if word = ['-', '-'] then told (count + 1) 0 ['?'] none 1
    else if word.head? != some '-' || word.length < 2 then told count 0 ['?'] none 1
    else
      let c := (word[offset]?).getD '?'
      let after := word.drop (offset + 1)
      let (nextCount, nextOffset) := if after = [] then (count + 1, 0) else (count, offset + 1)
      let place := letters.dropWhile (· != c)
      if c = ':' || place = [] then
        unless silent do warn "illegal option" c
        told nextCount nextOffset ['?'] (if silent then some [c] else none) 0
      else if place[1]? = some ':' then
        if after != [] then told (count + 1) 0 [c] (some after) 0
        else match words[count]? with
          | some value => told (count + 2) 0 [c] (some value) 0
          | none =>
            unless silent do warn "option requires an argument" c
            if silent then told (count + 1) 0 [':'] (some [c]) 0
            else told (count + 1) 0 ['?'] none 0
      else told nextCount nextOffset [c] none 0
  | _ => showUsage "getopts"

def setMaskLarger (arguments : List Octets) : Action Unit := do
  let (letters, operands) ← optionsOf "umask" "pS" arguments
  let has (c : Char) : Bool := letters.any (·.1 = c)
  let mask := (← get).mask
  let show_ (mask : Nat) : Action Unit :=
    let start := if has 'p' then if has 'S' then "umask -S " else "umask " else ""
    printFor (Octets.say "umask")
      (Octets.say start ++ (if has 'S' then Mask.lettered mask else Mask.text mask) ++ ['\n'])
  match operands with
  | [] => show_ mask
  | text :: _ =>
    match Mask.ofText mask text with
    | .ok new =>
      modify ({ · with mask := new })
      finish 0
      if has 'S' then show_ new
    | .error _ =>
      if text.head?.any Octets.isDigit then
        failLarger (text ++ Octets.say ": octal number out of range")
      let wrong := (text.dropWhile ("ugoa".toList.contains ·)).headD '\x00'
      failLarger ('\x60' :: wrong :: Octets.say "': invalid symbolic mode operator")

def tellCaller (arguments : List Octets) : Action Unit := do
  let frames := (← get).habits.frames
  let n := (arguments.head?.map Octets.natural).getD 0
  match frames[n]? with
  | none => finish 1
  | some frame =>
    let outer := frames[n + 1]?
    let source := (outer.map (·.source)).getD "NULL".toList
    finish 0
    if arguments = [] then say (Octets.ofInt frame.line ++ ' ' :: source ++ ['\n'])
    else match outer with
      | some outer => say (Octets.ofInt frame.line ++ ' ' :: outer.name ++ ' ' :: source ++ ['\n'])
      | none => finish 1

def larger? (name : String) (arguments : List Octets) : Option (Action Unit) :=
  match name with
  | ":" | "true" | "history" | "fc" | "bind" | "complete" | "compgen" | "compopt" | "disown"
  | "help" => some (finish 0)
  | "false" => some (finish 1)
  | "echo" => some (echoLarger arguments)
  | "printf" => some (printfLarger arguments)
  | "test" => some (testLarger false arguments)
  | "[" => some (testLarger true arguments)
  | "cd" => some (changeDirectoryLarger arguments)
  | "pwd" => some do
    let (letters, _) ← optionsOf "pwd" "LP" arguments
    let directory ← if letters.getLast?.any (·.1 = 'P') then physicalDirectory
      else pure (← get).directory
    printFor (Octets.say "pwd") (directory ++ ['\n'])
  | "pushd" => some (pushDirectory arguments)
  | "popd" => some (popDirectory arguments)
  | "dirs" => some (showStack arguments)
  | "declare" | "typeset" | "local" => some (declare name (arguments.map .inl))
  | "export" => some (exportVariables (arguments.map .inl))
  | "readonly" => some (fixVariables (arguments.map .inl))
  | "unset" => some (unsetLarger arguments)
  | "set" => some do
    finish 0
    if arguments = [] then showVariables
    else setLargerOptions (arguments.length + 1) arguments
  | "shopt" => some (shopt arguments)
  | "let" => some (calculateAll arguments)
  | "read" => some (readLarger arguments)
  | "mapfile" | "readarray" => some (mapLines name arguments)
  | "type" => some (typeLarger arguments)
  | "alias" => some (aliasesLarger arguments)
  | "unalias" => some (dropAliasesLarger arguments)
  | "enable" => some (enableBuiltins arguments)
  | "hash" => some do
    let (_, names) ← optionsOf "hash" "dlp:rt" arguments
    finish 0
    if arguments = [] then say (Octets.say "hash: hash table empty\n")
    for name in names do
      let s ← get
      if !s.performs name && (allLocated s name) = [] then
        complain (name ++ Octets.say ": not found")
        finish 1
  | "shift" => some (shiftLarger arguments)
  | "break" => some (leaveLarger false arguments)
  | "continue" => some (leaveLarger true arguments)
  | "exit" => some do
    statusLarger arguments
    throw .exited
  | "logout" => some (failLarger (Octets.say "not login shell: use \x60exit'"))
  | "suspend" => some (failLarger (Octets.say "cannot suspend: no job control"))
  | "return" => some do
    if (← get).functionDepth = 0 && (← get).habits.frames.all (·.name != "source".toList) then
      complain (Octets.say "can only \x60return' from a function or sourced script")
      finish 2
    else
      statusLarger arguments
      throw .returned
  | "kill" => some (killLarger arguments)
  | "wait" => some (waitLarger arguments)
  | "jobs" => some (listJobsLarger arguments)
  | "fg" | "bg" => some (failLarger (Octets.say "no job control"))
  | "trap" => some (trapLarger arguments)
  | "getopts" => some (nextOptionLarger arguments)
  | "umask" => some (setMaskLarger arguments)
  | "ulimit" => some do
    let (_, operands) ← optionsOf "ulimit" "SHabcdefiklmnpqrstuvxPRT" arguments
    limit operands
  | "times" => some do
    let _ ← optionsOf "times" "" arguments
    printFor (Octets.say "times") (Octets.say "0m0.000s 0m0.000s\n0m0.000s 0m0.000s\n")
  | "caller" => some (tellCaller arguments)
  | _ => none

end SvelteTransform.Sandbox.Shell
