import SvelteTransform.Sandbox.Program
import SvelteTransform.Sandbox.Shell.Items
import SvelteTransform.Sandbox.Shell.Script
import SvelteTransform.Sandbox.Signal
import SvelteTransform.Sandbox.Time

/-! What a running shell knows, and what it does to itself and to what it shares with others. -/
namespace SvelteTransform.Sandbox.Shell

structure Binding where
  value : Option Octets
  exported : Bool := false
  readonly : Bool := false
  items : Option Items := none
  marks : Octets := []
  deriving DecidableEq, Repr

structure Job where
  slot : Nat
  process : Nat
  waited : Bool := false
  text : Octets := []
  deriving DecidableEq, Repr

structure Frame where
  name : Octets
  source : Octets
  line : Nat
  deriving DecidableEq, Repr

structure Habits where
  switches : List String := []
  frames : List Frame := []
  sources : List (Octets × Octets) := []
  reading : Option Octets := none
  readLine : Nat := 1
  nesting : Nat := 0
  lastWord : Octets := []
  stack : List Octets := []
  depth : Nat := 0
  shells : Nat := 0
  events : List (String × Octets) := []
  isTrapped : Bool := false
  disabled : List String := []
  seed : Nat := 1
  since : Int := 0
  channels : List (Nat × Option (Nat × Nat × Command)) := []

structure State where
  world : World
  dialect : Dialect := .dash
  habits : Habits := {}
  here : Inode
  directory : Octets := []
  bindings : List (Octets × Binding) := []
  covered : List (List (Octets × Option Binding)) := []
  functions : List (Octets × Command) := []
  aliases : List (Octets × Octets) := []
  mask : Nat := Mask.standard
  documents : List (Nat × Word) := []
  unusedDocument : Nat := 0
  name : Octets
  performing : Option Octets := none
  arguments : List Octets := []
  status : Nat := 0
  line : Nat := 1
  options : Octets := []
  ignores : List Nat := []
  traps : List (Nat × Octets) := []
  jobs : List Job := []
  lastJob : Option Nat := none
  descriptors : Descriptors
  saved : List Nat := []
  number : Nat
  process : Nat
  parent : Nat := 1
  loops : Nat := 0
  functionDepth : Nat := 0
  stages : List Nat := []
  scriptStatus : Option Nat := none
  optionPlace : Nat × Nat := (1, 0)

inductive Halt where
  | exited
  | failed
  | discarded
  | killed (signal : Nat)
  | replaced (status : Worker.ExitStatus)
  | left (levels : Nat) (again : Bool)
  | returned
  | spent
  deriving DecidableEq, Repr

def largerOptions : List (String × Option Char) :=
  [("allexport", some 'a'), ("braceexpand", some 'B'), ("emacs", none), ("errexit", some 'e'),
   ("errtrace", some 'E'), ("functrace", some 'T'), ("hashall", some 'h'),
   ("histexpand", some 'H'), ("history", none), ("ignoreeof", none),
   ("interactive-comments", none), ("keyword", some 'k'), ("monitor", some 'm'),
   ("noclobber", some 'C'), ("noexec", some 'n'), ("noglob", some 'f'), ("nolog", none),
   ("notify", some 'b'), ("nounset", some 'u'), ("onecmd", some 't'), ("physical", some 'P'),
   ("pipefail", none), ("posix", none), ("privileged", some 'p'), ("verbose", some 'v'),
   ("vi", none), ("xtrace", some 'x')]

abbrev Action := ExceptT Halt (StateM State)

namespace State

def has (s : State) (option : Char) : Bool := s.options.contains option

def isOn (s : State) (name : String) : Bool := s.habits.switches.contains name

def isOptionOn (s : State) (option : String × Option Char) : Bool :=
  match option.2 with
  | some letter => s.has letter
  | none => s.isOn option.1

def standing? (s : State) (name : Octets) : Option Binding :=
  let value (text : Octets) : Option Binding := some { value := some text }
  let list (texts : List Octets) : Option Binding :=
    some { value := none, items := some (.ofList texts) }
  let number (n : Nat) : Octets := Octets.ofInt n
  let counter (n : Int) : Option Binding := some { value := some (Octets.ofInt n), marks := ['i'] }
  let names (all : List String) : Option Binding :=
    some { value := some (Octets.say (":".intercalate all)), readonly := true }
  let frames := s.habits.frames
  match String.ofList name with
  | "LINENO" => value (number s.line)
  | "PIPESTATUS" => list (s.stages.map number)
  | "FUNCNAME" =>
    if s.functionDepth = 0 then none else list (frames.map (·.name))
  | "BASH_SOURCE" => list (frames.map (·.source))
  | "BASH_LINENO" => list (frames.map (number ·.line))
  | "BASH_SUBSHELL" => value (number s.habits.shells)
  | "BASH_ARGV0" => value s.name
  | "BASH_ALIASES" => some { value := some [], items := some (.keyed s.aliases) }
  | "BASH_CMDS" => some { value := some [], items := some (.keyed []) }
  | "BASHOPTS" =>
    let on := s.habits.switches.filter fun name => largerOptions.all (·.1 != name)
    names (on.mergeSort fun a b => a ≤ b)
  | "SHELLOPTS" => names ((largerOptions.filter s.isOptionOn).map (·.1))
  | "BASHPID" => counter s.process
  | "SECONDS" => counter ((s.world.clock / 1000 : Nat) - s.habits.since)
  | "EPOCHSECONDS" => value (number (s.world.timed.files.now / 1000))
  | "RANDOM" | "SRANDOM" =>
    let seed := s.habits.seed
    counter (((seed / 65536) ^^^ (seed % 65536)) % 32768 : Nat)
  | "DIRSTACK" => list (s.directory :: s.habits.stack)
  | "_" => value s.habits.lastWord
  | _ => none

def referent (s : State) : (fuel : Nat) → Octets → Octets
  | 0, name => name
  | fuel + 1, name =>
    match s.bindings.lookup name with
    | some { value := some other, marks, .. } =>
      if marks.contains 'n' && other != [] then s.referent fuel other else name
    | _ => name

def variableOf (s : State) (name : Octets) : Option Binding :=
  match s.dialect with
  | .dash => s.bindings.lookup name
  | .bash => let name := s.referent 8 name
    (s.standing? name).or (s.bindings.lookup name)

def value? (s : State) (name : Octets) : Option Octets :=
  (s.variableOf name).bind fun b => match b.items with
    | some items => items.get? ['0']
    | none => b.value

def bind (s : State) (name : Octets) (b : Binding) : State :=
  if s.bindings.any (·.1 = name) then
    { s with bindings := s.bindings.map fun old => if old.1 = name then (name, b) else old }
  else { s with bindings := s.bindings ++ [(name, b)] }

def binding (s : State) (name : Octets) : Binding :=
  (s.bindings.lookup name).getD { value := none }

def drop (s : State) (name : Octets) : State :=
  { s with bindings := s.bindings.filter (·.1 != name) }

def set (s : State) (name value : Octets) : State :=
  let old := s.binding name
  s.bind name { old with value := some value, exported := old.exported || s.has 'a' }

def listNumber (name : Octets) : Nat :=
  let codes := name.map Char.toNat
  codes.foldl (· + ·) (16 * codes.headD 0) % 39

def exported (s : State) : List (Octets × Octets) :=
  let given := s.bindings.filterMap fun (name, b) =>
    if b.exported && b.items.isNone then b.value.map (name, ·) else none
  match s.dialect with
  | .dash => given.mergeSort fun a b => listNumber a.1 ≤ listNumber b.1
  | .bash => Items.filed given.reverse

def separators (s : State) : Octets := (s.value? "IFS".toList).getD [' ', '\t', '\n']

def between (s : State) : Octets :=
  match s.value? "IFS".toList with
  | some separators => separators.take 1
  | none => [' ']

def parameter? (s : State) (name : Octets) : Option Octets :=
  match name with
  | ['#'] => some (Octets.ofInt s.arguments.length)
  | ['?'] => some (Octets.ofInt s.status)
  | ['$'] => some (Octets.ofInt s.number)
  | ['-'] => some (s.options.filter (' ' < ·))
  | ['!'] => s.lastJob.map fun n => Octets.ofInt n
  | ['0'] => some s.name
  | ['L', 'I', 'N', 'E', 'N', 'O'] => some ((s.value? name).getD (Octets.ofInt s.line))
  | name =>
    if name.all Octets.isDigit then
      let n := Octets.natural name
      if n = 0 then some s.name else s.arguments[n - 1]?
    else s.value? name

def physicalDirectory? (s : State) : Option Octets :=
  (s.world.files.pathTo? s.here).map fun path => Octets.ofText path.spelling

def kind (s : State) (path : Octets) : Option Node :=
  match s.world.files.find s.here (pathOf path) with
  | .ok (.node _ node) => some node
  | _ => none

end State

namespace State

def held (s : State) : List Nat := s.descriptors.map (·.2) ++ s.saved

def holds (s : State) : World := { s.world with holding := s.held ++ s.world.holding }

def ignored (s : State) : List Nat := (s.traps.filter (·.2 = [])).map (·.1) ++ s.ignores

end State

def finish (status : Nat) : Action Unit := modify ({ · with status })

def breakPipe : Action Unit := do
  let s ← get
  unless s.ignored.contains 13 do
    if (s.traps.lookup 13).isNone then throw (.killed 13)
    set { s with world := { s.world with signals := s.world.signals ++ [(s.process, 13)] } }

def emit (descriptor : Nat) (text : Octets) : Action (Except SystemError Unit) := do
  let s ← get
  match s.descriptors.lookup descriptor with
  | none => return .error .badDescriptor
  | some id =>
    match s.world.write id text with
    | .ok world =>
      set { s with world }
      return .ok ()
    | .error error =>
      if error = .brokenPipe then breakPipe
      return .error error

def complain (text : Octets) : Action Unit := do
  let s ← get
  let performing := match s.performing with
    | some name => name ++ Octets.say ": "
    | none => []
  let place := match s.dialect with
    | .dash => s.name ++ Octets.say s!": {s.line}: "
    | .bash =>
    let source := (s.habits.frames.head?.map (·.source)).getD s.name
    let reading := match s.habits.reading with
      | some name => name ++ Octets.say ": "
      | none => []
    source ++ Octets.say ": " ++ reading ++ Octets.say s!"line {s.line}: "
  let _ ← emit 2 (place ++ performing ++ text ++ ['\n'])

def isLarger : Action Bool := return (← get).dialect = .bash

def inDialect (smaller larger : Octets) : Action Octets :=
  return if ← isLarger then larger else smaller

def fail {α : Type} (text : Octets) (status : Nat := 2) : Action α := do
  complain text
  finish status
  throw .failed

def cover (name : Octets) : Action Unit := do
  let s ← get
  match s.covered with
  | [] => return
  | inner :: outer =>
    if (inner.lookup name).isNone then
      set { s with covered := ((name, s.bindings.lookup name) :: inner) :: outer }

def covering (body : Action Unit) : Action Unit := do
  let options := (← get).options
  modify fun s => { s with covered := [] :: s.covered }
  let uncover : Action Unit := modify fun s =>
    let mine := s.covered.headD []
    let restored := mine.foldl (fun s (name, old) => match old with
      | some b => s.bind name b
      | none => s.drop name) s
    { restored with
      covered := s.covered.tail
      options := if (mine.lookup ['-']).isSome then options else s.options }
  tryCatch body fun halt => do
    uncover
    throw halt
  uncover

def performing (name : Octets) (body : Action Unit) : Action Unit := do
  let before := (← get).performing
  modify ({ · with performing := some name })
  let restore : Action Unit := modify ({ · with performing := before })
  tryCatch body fun halt => do
    restore
    throw halt
  restore

def mourn (signal : Nat) : Action Unit := do
  let isPassedOver := (← get).dialect = .bash && signal = 15
  if let some text := if isPassedOver then none else Signal.text signal then
    let _ ← emit 2 (Octets.say text ++ ['\n'])

def learnEnds : Action Unit := modify fun s =>
  let isOver (b : Background) : Bool :=
    s.jobs.any (·.process = b.number) && s.world.hasEnded b.number
  { s with world := { s.world with
      beside := s.world.beside.map fun b => if isOver b then { b with isGone := true } else b } }

def State.jobsToKeep (s : State) : List Job :=
  let gone := s.jobs.filter fun job => job.waited && s.world.hasEnded job.process
  match gone.map (·.slot) with
  | [] => s.jobs
  | slot :: rest => s.jobs.filter (·.slot != rest.foldl min slot)

def State.unusedSlot (s : State) : Nat :=
  (((List.range (s.jobs.length + 1)).map (· + 1)).find? fun n => s.jobs.all (·.slot != n)).getD 1

def newProcess : Action Nat := modifyGet fun s =>
  let number := s.world.lastProcess + 1
  (number, { s with
    world := { s.world with lastProcess := number }
    jobs := s.jobsToKeep })

end SvelteTransform.Sandbox.Shell
