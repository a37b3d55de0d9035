import SvelteTransform.Sandbox.Shell.Variables

/-! Signals, what a shell does on them, and commands that run beside it. -/
namespace SvelteTransform.Sandbox.Shell

def signalOf (text : Octets) : Option Nat :=
  if Octets.isNumber text then
    if Octets.natural text ≤ 64 then some (Octets.natural text) else none
  else if text = "EXIT".toList then some 0
  else Signal.number? (text.map Char.toUpper)

def killUsage : String :=
  "Usage: kill [-s sigspec | -signum | -sigspec] [pid | job]... or\nkill -l [exitstatus]"

def noProcess (target : Nat) : Action Unit := do
  complain (← inDialect (Octets.say "No such process\n")
    (Octets.say s!"({target}) - No such process"))
  finish 1

def send (signal : Nat) (target : Nat) : Action Unit := do
  let s ← get
  match s.world.background? target with
  | some { isGone := true, .. } => noProcess target
  | some b =>
    let goesOn := match b.phase with
      | .ended time _ => s.world.clock < time
      | _ => true
    if Signal.ends signal && goesOn then
      let ended := { b with phase := .ended s.world.clock (128 + signal) }
      set { s with world := s.world.replaceBackground ended }
  | none =>
    if target = s.process || target = s.number || target = s.parent then
      set { s with world := { s.world with signals := s.world.signals ++ [(target, signal)] } }
    else noProcess target

def job? (s : State) (text : Octets) : Option Job :=
  match text with
  | [] | ['%'] | ['+'] => s.jobs.head?
  | ['-'] => s.jobs[1]?
  | text => if Octets.isNumber text then s.jobs.find? (·.slot = Octets.natural text) else none

def needJob (text : Octets) : Action Job := do
  match job? (← get) text with
  | some job => return job
  | none => fail (Octets.say "No such job: %" ++ text)

def sendAll (signal : Nat) (targets : List Octets) : Action Unit := do
  if targets = [] then fail (Octets.say killUsage)
  finish 0
  for target in targets do
    match target with
    | '%' :: text =>
      -- A job would have to be a group of processes, which none is here.
      let _ ← needJob text
      noProcess 0
    | target =>
      let digits := if target.head? = some '-' then target.tail else target
      unless Octets.isNumber digits do fail (Octets.say "Illegal number: " ++ target)
      let n := Octets.natural digits
      let own := (← get).number
      send signal (if n = 0 then own else n)

def listSignals (arguments : List Octets) : Action Unit := do
  finish 0
  match arguments with
  | [] =>
    let rest := (List.range 64).map fun i =>
      ((Signal.name? (i + 1)).getD (Octets.ofInt (i + 1 : Nat)) ++ ['\n'])
    say ('0' :: '\n' :: rest.flatten)
  | text :: _ =>
    let n ← numberArgument text
    match Signal.name? (if 128 < n then n - 128 else n) with
    | some name => say (name ++ ['\n'])
    | none => fail (Octets.say "invalid signal number or exit status: " ++ text)

def kill (arguments : List Octets) : Action Unit := do
  match arguments with
  | [] => fail (Octets.say killUsage)
  | ['-', 'l'] :: rest => listSignals rest
  | ['-', 's'] :: name :: targets =>
    match signalOf name with
    | some signal => sendAll signal (if targets.head? = some ['-', '-'] then targets.tail else targets)
    | none => fail (Octets.say "invalid signal number or name: " ++ name)
  | ['-', '-'] :: targets => sendAll 15 targets
  | ('-' :: name) :: targets =>
    match signalOf name with
    | some signal => sendAll signal (if targets.head? = some ['-', '-'] then targets.tail else targets)
    | none => fail (Octets.say "Illegal option -" ++ name.take 1)
  | targets => sendAll 15 targets

def sleepUntil (goal : Nat) : Action Unit := do
  let s ← get
  let world := s.world.sleepUntil s.held goal
  set { s with world }
  if world.stopped.isSome then throw .spent

def disturbance? : Action (Option Nat) := do
  let s ← get
  let counts : Nat × Nat → Bool := fun (process, signal) => process = s.process &&
    match s.traps.lookup signal with
    | some text => text != []
    | none => Signal.ends signal
  return (s.world.signals.find? counts).map (·.2)

def await (number : Nat) : (fuel : Nat) → Action Nat
  | 0 => throw .spent
  | fuel + 1 => do
    let phase : Option Phase := ((← get).world.background? number).map (·.phase)
    match phase with
    | none => return 127
    | some (.ended time status) =>
      sleepUntil time
      learnEnds
      return status
    | some (.asleep wakes _) =>
      sleepUntil (max wakes ((← get).world.clock + 1))
      match ← disturbance? with
      | some signal => return 128 + signal
      | none => await number fuel
    | some .endless => throw .spent

def forget (job : Job) : Action Unit := modify fun s =>
  { s with jobs := s.jobs.map fun old => if old.slot = job.slot then { old with waited := true } else old }

def waitFor (job : Job) : Action Unit := do
  let status ← await job.process ((← get).world.wakings + 1)
  finish status
  if (← disturbance?).isNone then
    forget job
    if 128 < status then mourn (status - 128)

def waitForAll : List Job → Action Unit
  | [] => finish 0
  | job :: rest => do
    let status ← await job.process ((← get).world.wakings + 1)
    if (← disturbance?).isSome then finish status
    else
      forget job
      waitForAll rest

def wait (arguments : List Octets) : Action Unit := do
  finish 0
  if arguments = [] then waitForAll (← get).jobs
  for target in arguments do
    match target with
    | '%' :: text => waitFor (← needJob text)
    | target =>
      let n ← numberArgument target
      match (← get).jobs.find? (·.process = n) with
      | some job => waitFor job
      | none => finish 127

def standing (s : State) (job : Job) : String :=
  match s.world.background? job.process with
  | some { phase := .ended time status, .. } =>
    if s.world.clock < time then "Running"
    else if status = 0 then "Done"
    else if 128 < status then (Signal.text (status - 128)).getD s!"Signal {status - 128}"
    else s!"Done({status})"
  | _ => "Running"

def showJob (letter : Option Char) (job : Job) : Action Unit := do
  let s ← get
  if letter = some 'p' then say (Octets.ofInt job.process ++ ['\n'])
  else
    let mark := if s.jobs.head? = some job then "+"
      else if s.jobs[1]? = some job then "-" else " "
    let process := if letter = some 'l' then s!"{job.process} " else ""
    let text := Octets.say s!"[{job.slot}] {mark} {process}{standing s job}"
    say (text ++ List.replicate (33 - text.length) ' ' ++ ['\n'])
    if s.world.hasEnded job.process then
      set { s with world := (← get).world, jobs := s.jobs.filter (·.slot != job.slot) }

def standingLarger (s : State) (job : Job) : String :=
  match s.world.background? job.process with
  | some { phase := .ended time status, .. } =>
    if s.world.clock < time then "Running"
    else if status = 0 then "Done"
    else if 128 < status then (Signal.text (status - 128)).getD s!"Signal {status - 128}"
    else s!"Exit {status}"
  | _ => "Running"

def showJobLarger (letter : Option Char) (job : Job) : Action Unit := do
  let s ← get
  let process := Octets.ofInt job.process
  if letter = some 'p' then say (process ++ ['\n'])
  else
    let mark := if s.jobs.head? = some job then "+"
      else if s.jobs[1]? = some job then "-" else " "
    let standing := standingLarger s job
    let padded := Octets.say standing ++ List.replicate (24 - standing.length) ' '
    let process := if letter = some 'l' then
        List.replicate (6 - process.length) ' ' ++ process ++ [' '] else [' ', ' ']
    say (Octets.say s!"[{job.slot}]{mark}" ++ process ++ padded ++ job.text ++
      (if standing = "Running" then [' ', '&', '\n'] else ['\n']))
    if s.world.hasEnded job.process then
      set { s with world := (← get).world, jobs := s.jobs.filter (·.slot != job.slot) }

def listJobs (arguments : List Octets) : Action Unit := do
  let (letters, operands) ← shortOptions "lp" arguments
  finish 0
  if operands = [] then
    for job in (← get).jobs do showJob letters.getLast? job
  for operand in operands do
    showJob letters.getLast? (← needJob (if operand.head? = some '%' then operand.tail else operand))

def takeUp (arguments : List Octets) : Action Unit := do
  match arguments with
  | [] =>
    if (← get).jobs = [] then fail (Octets.say "No current job")
    fail (Octets.say "job (null) not created under job control")
  | text :: _ =>
    let _ ← needJob (if text.head? = some '%' then text.tail else text)
    fail (Octets.say "job " ++ text ++ Octets.say " not created under job control")

def trapSignal (action : Option Octets) (signal : Nat) : Action Unit := modify fun s =>
  let others := s.traps.filter (·.1 != signal)
  { s with traps := match action with
    | some text => (signal, text) :: others
    | none => others }

def trap (arguments : List Octets) : Action Unit := do
  let arguments := if arguments.head? = some ['-', '-'] then arguments.tail else arguments
  finish 0
  match arguments with
  | [] =>
    let traps := (← get).traps.mergeSort fun (a, _) (b, _) => a ≤ b
    for (signal, text) in traps do
      let name := if signal = 0 then "EXIT".toList
        else (Signal.name? signal).getD (Octets.ofInt signal)
      say (Octets.say "trap -- " ++ quoted text ++ ' ' :: name ++ ['\n'])
  | first :: rest =>
    let resets := rest = [] || (signalOf first).isSome && Octets.isNumber first
    let action := if resets || first = ['-'] then none else some first
    for text in if resets then first :: rest else rest do
      match signalOf text with
      | some signal => trapSignal action signal
      | none =>
        let _ ← emit 2 (Octets.say "trap: " ++ text ++ Octets.say ": bad trap\n")
        finish 1

end SvelteTransform.Sandbox.Shell
