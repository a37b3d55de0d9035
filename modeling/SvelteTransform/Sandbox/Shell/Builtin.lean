import SvelteTransform.Sandbox.Shell.Jobs
import SvelteTransform.Sandbox.Shell.Redirection
import SvelteTransform.Sandbox.Tools.Condition
import SvelteTransform.Sandbox.Tools.Printf

/-! The commands that the shell performs itself, those apart that run others. -/
namespace SvelteTransform.Sandbox.Shell

def printFormatted (arguments : List Octets) : Action Unit := do
  match arguments with
  | [] => fail (Octets.say "usage: printf format [arg ...]")
  | ['-', '-'] :: format :: arguments | format :: arguments =>
    let outcome := Tools.Printf.run {} format arguments
    for text in outcome.complaints do complain text
    printFor (Octets.say "printf") outcome.output outcome.status

def checkCondition (bracketed : Bool) (arguments : List Octets) : Action Unit := do
  if bracketed && arguments.getLast? != some [']'] then fail (Octets.say "missing ]")
  let words := if bracketed then arguments.dropLast else arguments
  match Tools.Condition.holds { files := (← get).world.files, here := (← get).here } words with
  | .ok holds => finish (if holds then 0 else 1)
  | .error text => fail text

def straightened (text : Octets) : List Octets :=
  (Path.cut text).foldl (fun names name =>
    if name = [] || name = ['.'] then names
    else if name = ['.', '.'] then names.dropLast
    else names ++ [name]) []

def spelled (names : List Octets) : Octets :=
  if names = [] then ['/'] else names.flatMap ('/' :: ·)

def physicalDirectory : Action Octets := do
  match (← get).physicalDirectory? with
  | some text => return text
  | none =>
    complain (Octets.say s!"getcwd() failed: {SystemError.notFound.reason}")
    return []

def tellIfLost (name : Octets) : Action Unit := do
  let s ← get
  if s.directory = [] then
    set { s with line := 0, name }
    let _ ← physicalDirectory
    modify ({ · with line := s.line, name := s.name })

def enter (here : Inode) (directory : Option Octets) : Action Unit := do
  modify ({ · with here })
  let directory ← match directory with
    | some directory => pure directory
    | none => physicalDirectory
  modify fun s =>
    let old : Binding :=
      { s.binding "OLDPWD".toList with value := some s.directory, exported := true }
    let new : Binding := { s.binding "PWD".toList with value := some directory, exported := true }
    (({ s with directory }).bind "OLDPWD".toList old).bind "PWD".toList new

def walked (s : State) (links : Bool) (target : Octets) : Option (Inode × Option Octets) :=
  let isAbsolute := target.head? = some '/'
  let full := if isAbsolute then target else s.directory ++ '/' :: target
  let text := if links || (!isAbsolute && s.directory = []) then none
    else some (spelled (straightened full))
  match s.world.files.find s.here (pathOf (text.getD target)) with
  | .ok (.node inode .directory) => some (inode, text)
  | _ => none

def changeDirectory (arguments : List Octets) : Action Unit := do
  let (letters, operands) ← shortOptions "LP" arguments
  let s ← get
  let target := operands.headD ((s.value? "HOME".toList).getD [])
  let tells := target = ['-']
  let target := if tells then (s.value? "OLDPWD".toList).getD [] else target
  let target := if target = [] then ['.'] else target
  let links := letters.getLast? = some 'P'
  let onPath := if ['/', '.'].contains (target.headD '/') then none
    else do
      let directories := Path.cutAt ':' (← s.value? "CDPATH".toList)
      (directories.filter (· != [])).findSome? fun d => walked s links (d ++ '/' :: target)
  finish 0
  match onPath, walked s links target with
  | some (inode, directory), _ =>
    enter inode directory
    say ((← get).directory ++ ['\n'])
  | none, some (inode, directory) =>
    enter inode directory
    if tells then say ((← get).directory ++ ['\n'])
  | none, none => fail (Octets.say "can't cd to " ++ target)

def printDirectory (arguments : List Octets) : Action Unit := do
  let (letters, _) ← shortOptions "LP" arguments
  let directory ← if letters.getLast? = some 'P' then physicalDirectory
    else pure (← get).directory
  printFor (Octets.say "pwd") (directory ++ ['\n'])

def regularNames : List String :=
  ["[", "alias", "bg", "cd", "chdir", "command", "echo", "false", "fc", "fg", "getopts", "hash",
   "jobs", "kill", "printf", "pwd", "read", "test", "true", "type", "ulimit", "umask", "unalias",
   "wait"]

def isBuiltin (name : String) : Bool := Script.specialCommands.contains name || regularNames.contains name

def located? (s : State) (searchPath name : Octets) : Option Octets :=
  let runs (path : Octets) : Bool := s.world.files.runs s.here (pathOf path)
  if name.contains '/' then if runs name then some name else none
  else ((Path.cutAt ':' searchPath).map (Program.inDirectory · name)).find? runs

def aliasLine (alias_ : Octets × Octets) : Octets :=
  alias_.1 ++ '=' :: quoted alias_.2 ++ ['\n']

def setAliases (arguments : List Octets) : Action Unit := do
  finish 0
  if arguments = [] then
    let all := (← get).aliases.mergeSort fun a b =>
      State.listNumber a.1 ≤ State.listNumber b.1
    say (all.flatMap aliasLine)
  for argument in arguments do
    let aliases := (← get).aliases
    -- A name may begin with an equals sign.
    let name := argument.take 1 ++ argument.tail.takeWhile (· != '=')
    if name.length < argument.length then
      let value := argument.drop (name.length + 1)
      let changed := if (aliases.lookup name).isSome then
          aliases.map fun old => if old.1 = name then (name, value) else old
        else aliases ++ [(name, value)]
      modify ({ · with aliases := changed })
    else match aliases.lookup name with
      | some value => say (aliasLine (name, value))
      | none =>
        let _ ← emit 2 (Octets.say "alias: " ++ name ++ Octets.say " not found\n")
        finish 1

def dropAliases (arguments : List Octets) : Action Unit := do
  let (letters, names) ← shortOptions "a" arguments
  finish 0
  if letters != [] then modify ({ · with aliases := [] })
  else for name in names do
    let aliases := (← get).aliases
    if (aliases.lookup name).isNone then
      let _ ← emit 2 (Octets.say "unalias: " ++ name ++ Octets.say " not found\n")
      finish 1
    modify ({ · with aliases := aliases.filter (·.1 != name) })

def describe (inSentence : Bool) (name : Octets) : Action Unit := do
  let s ← get
  let tell (sentence : String) (short : Octets) : Action Unit :=
    say ((if inSentence then name ++ Octets.say sentence else short) ++ ['\n'])
  let text := String.ofList name
  if (Script.reserved .dash).contains text then tell " is a shell keyword" name
  else if let some value := s.aliases.lookup name then
    say <| if inSentence then name ++ Octets.say " is an alias for " ++ value ++ ['\n']
      else Octets.say "alias " ++ aliasLine (name, value)
  else if (s.functions.lookup name).isSome then tell " is a shell function" name
  else if Script.specialCommands.contains text then tell " is a special shell builtin" name
  else if isBuiltin text then tell " is a shell builtin" name
  else match located? s ((s.value? "PATH".toList).getD []) name with
    | some path =>
      say ((if inSentence then name ++ Octets.say " is " ++ path else path) ++ ['\n'])
    | none =>
      if inSentence then say (name ++ Octets.say ": not found\n")
      finish 127

def setMask (arguments : List Octets) : Action Unit := do
  let (letters, operands) ← shortOptions "S" arguments
  let mask := (← get).mask
  match operands with
  | [] =>
    let text := if letters = [] then Mask.text mask else Mask.lettered mask
    printFor (Octets.say "umask") (text ++ ['\n'])
  | text :: _ =>
    match Mask.ofText mask text with
    | .ok mask =>
      modify ({ · with mask })
      finish 0
    | .error .number => fail (Octets.say "Illegal number: " ++ text)
    | .error .mode => fail (Octets.say "Illegal mode: " ++ text)

def limit (arguments : List Octets) : Action Unit := do
  let (_, operands) ← shortOptions "HSatfdscmlpnvwr" arguments
  match operands with
  | [] => printFor (Octets.say "ulimit") (Octets.say "unlimited\n")
  | [text] =>
    unless text.all Octets.isDigit || text = Octets.say "unlimited" do
      fail (Octets.say "bad number")
    finish 0
  | _ => fail (Octets.say "too many arguments")

def statusArgument (arguments : List Octets) : Action Unit := do
  if let text :: _ := arguments then finish (← numberArgument text)

def leave (again : Bool) (arguments : List Octets) : Action Unit := do
  let n ← match arguments with
    | [] => pure 1
    | text :: _ =>
      let n ← numberArgument text
      if n = 0 then fail (Octets.say "Illegal number: " ++ text)
      pure n
  let loops := (← get).loops
  finish 0
  if 0 < loops then throw (.left (min n loops) again)

def builtin? (name : String) (arguments : List Octets) : Option (Action Unit) :=
  match name with
  | ":" | "true" | "hash" | "fc" => some (finish 0)
  | "jobs" => some (listJobs arguments)
  | "bg" | "fg" => some (takeUp arguments)
  | "false" => some (finish 1)
  | "echo" => some (printFor (Octets.say "echo") (Tools.Printf.echo arguments))
  | "printf" => some (printFormatted arguments)
  | "test" => some (checkCondition false arguments)
  | "[" => some (checkCondition true arguments)
  | "cd" | "chdir" => some (changeDirectory arguments)
  | "pwd" => some (printDirectory arguments)
  | "export" => some (mark "export" (·.exported) ({ · with exported := true }) arguments)
  | "readonly" => some (mark "readonly" (·.readonly) ({ · with readonly := true }) arguments)
  | "local" => some (localize arguments)
  | "unset" => some (unset arguments)
  | "set" => some (setCommand arguments)
  | "alias" => some (setAliases arguments)
  | "unalias" => some (dropAliases arguments)
  | "shift" => some (shift arguments)
  | "read" => some (readLine arguments)
  | "getopts" => some (nextOption arguments)
  | "kill" => some (kill arguments)
  | "wait" => some (wait arguments)
  | "trap" => some (trap arguments)
  | "umask" => some (setMask arguments)
  | "ulimit" => some (limit arguments)
  | "times" => some (printFor (Octets.say "times") (Octets.say "0m0.00s 0m0.00s\n0m0.00s 0m0.00s\n"))
  | "type" => some do
    finish 0
    for argument in arguments do describe true argument
  | "exit" => some do
    statusArgument arguments
    throw .exited
  | "return" => some do
    statusArgument arguments
    throw .returned
  | "break" => some (leave false arguments)
  | "continue" => some (leave true arguments)
  | _ => none

end SvelteTransform.Sandbox.Shell
