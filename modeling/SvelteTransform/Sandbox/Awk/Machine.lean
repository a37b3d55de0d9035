import SvelteTransform.Sandbox.Awk.Fields
import SvelteTransform.Sandbox.Awk.Table
import SvelteTransform.Sandbox.Awk.Token
import SvelteTransform.Sandbox.Program

/-! A program at work: its variables, the record, and what it reads and writes. What is written is
kept back until a stream is closed or other programs are started. -/
namespace SvelteTransform.Sandbox.Awk

abbrev Launch := Process → World → Option Worker.ExitStatus × World

inductive Slot where
  | value (v : Value)
  | table (id : Nat)

structure Outlet where
  name : Octets
  file : Option Nat
  pending : List Octets := []

structure Inlet where
  name : Octets
  isCommand : Bool
  rest : Octets
  status : Nat := 0

structure Input where
  rest : Option Octets := none
  next : Nat := 1
  isOpened : Bool := false
  isOver : Bool := false
  standard : Option (Nat × Nat) := none

structure Machine where
  world : World
  process : Process
  program : Program
  cells : List (Octets × Value) := []
  tables : List (Nat × Table) := []
  unusedTable : Nat := 0
  frame : List (Octets × Slot) := []
  record : Record := {}
  input : Input := {}
  outlets : List Outlet := []
  inlets : List Inlet := []
  begun : List Nat := []
  seed : Value := .number 0
  random : Nat := 0
  status : Nat := 0
  isUnheard : Bool := false

inductive Halt where
  | next
  | nextFile
  | exit
  | giveBack (v : Value)
  | leave
  | again
  | failed
  | spent

abbrev Action := ExceptT Halt (StateM Machine)

def Machine.put (m : Machine) (descriptor : Nat) (text : Octets) : Machine :=
  match (m.process.descriptors.lookup descriptor).map (m.world.write · text) with
  | some (.ok world) => { m with world }
  | _ => m

def Machine.name (m : Machine) : Octets :=
  ((Path.cutAt '/' (m.process.arguments.headD [])).getLast?).getD []

def fail {α : Type} (text : Octets) : Action α := do
  modify fun m => { m.put 2 (m.name ++ Octets.say ": " ++ text ++ ['\n']) with status := 2 }
  throw .failed

def valueOf (name : String) : Action Value := do
  return ((← get).cells.lookup name.toList).getD .unset

def convfmt : Action Octets := return (← valueOf "CONVFMT").toText []
def toText (v : Value) : Action Octets := return v.toText (← convfmt)
def textOf (name : String) : Action Octets := do toText (← valueOf name)

def runtimeError {α : Type} (text : Octets) : Action α := do
  let file ← textOf "FILENAME"
  let line ← textOf "FNR"
  let record ← textOf "NR"
  fail (Octets.say "run time error: " ++ text ++ Octets.say "\n\tFILENAME=\"" ++ file ++
    Octets.say "\" FNR=" ++ line ++ Octets.say " NR=" ++ record)

def understood {α : Type} (text : Octets) (found : Except Search.Flaw α) : Action α :=
  match found with
  | .ok a => return a
  | .error flaw => runtimeError
      (Octets.say s!"regular expression compile failed ({flaw.text})\n" ++ text)

def separator (text : Octets) : Action Separator := understood text (Separator.ofText text)

def setVariable (name : Octets) (v : Value) : Action Unit := modify fun m =>
  { m with cells := (name, v) :: m.cells.filter (·.1 != name) }

def setRecord (text : Value) : Action Unit := do
  let separator ← separator (← textOf "FS")
  let format ← convfmt
  modify fun m => { m with record := .ofValue separator format text }

def alter (change : (separator format : Octets) → Record → Record) : Action Unit := do
  let separator ← textOf "OFS"
  let format ← convfmt
  modify fun m => { m with record := change separator format m.record }

def Machine.tableOf? (m : Machine) (name : Octets) : Option Nat :=
  match m.frame.lookup name with
  | some (.table id) => some id
  | some (.value _) => none
  | none => m.program.arrays.findIdx? (· = name)

def tableOf (name : Octets) : Action Nat := return ((← get).tableOf? name).getD 0

def table (id : Nat) : Action Table := return ((← get).tables.lookup id).getD {}

def setTable (id : Nat) (t : Table) : Action Unit := modify fun m =>
  { m with tables := (id, t) :: m.tables.filter (·.1 != id) }

def newTable : Action Nat := modifyGet fun m =>
  (m.unusedTable, { m with unusedTable := m.unusedTable + 1 })

inductive Place where
  | scalar (name : Octets)
  | field (n : Nat)
  | cell (table : Nat) (key : Key)

def load : Place → Action Value
  | .scalar name => do
    let m ← get
    match m.frame.lookup name with
    | some (.value v) => return v
    | some (.table _) => return .unset
    | none =>
      if name = "NF".toList then return .ofNat m.record.fields.length
      else return (m.cells.lookup name).getD .unset
  | .field n => return (← get).record.field n
  | .cell id key => do
    let (v, t) := (← table id).get key
    setTable id t
    return v

def store (v : Value) : Place → Action Unit
  | .scalar name => do
    if ((← get).frame.lookup name).isSome then
      modify fun m => { m with
        frame := m.frame.map fun (n, old) => (n, if n = name then .value v else old) }
    else if name = "NF".toList then
      alter fun separator format => Record.setCount separator format (whole v.toNumber).toNat
    else setVariable name v
  | .field 0 => setRecord v
  | .field n => alter fun separator format => Record.setField separator format n v
  | .cell id key => do
    let (_, t) := (← table id).find key
    setTable id (t.insert key v)

def count (name : String) : Action Unit := do
  setVariable name.toList (.number ((← valueOf name).toNumber + 1))

def writeFailure {α : Type} (error : SystemError) : Action α :=
  fail (Octets.say s!"write failure ({error.reason})")

def breakPipe (error : SystemError) : Action Unit := do
  if error = .brokenPipe && !(← get).process.ignores.contains 13 then
    modify ({ · with isUnheard := true })
    throw .failed

def flushFile (name : Octets) (refused : SystemError → Action Unit := writeFailure) :
    Action Unit := do
  let m ← get
  if let some o := m.outlets.find? fun o => o.name = name && o.file.isSome then
    let text := o.pending.reverse.flatten
    let emptied (p : Outlet) : Outlet :=
      if p.name = name && p.file.isSome then { p with pending := [] } else p
    set { m with outlets := m.outlets.map emptied }
    if let some id := o.file then
      if text != [] then
        match m.world.write id text with
        | .ok world => modify ({ · with world })
        | .error error =>
          breakPipe error
          refused error

def flushFiles : Action Unit := do
  for o in (← get).outlets do
    if o.file.isSome then flushFile o.name

def settleInput : Action Unit := modify fun m =>
  match m.input.standard, m.process.descriptors.lookup 0 with
  | some (total, passed), some id =>
    let used := total - (m.input.rest.getD []).length
    let goal := min total ((used + 4095) / 4096 * 4096)
    { m with
      world := m.world.pass id (goal - passed)
      input := { m.input with standard := some (total, goal) } }
  | _, _ => m

def shell (launch : Launch) (command : Octets) (descriptors : Descriptors) :
    Action Worker.ExitStatus := do
  settleInput
  let m ← get
  let number := m.world.lastProcess + 1
  let process : Process := { m.process with
    arguments := ["/bin/sh".toList, "-c".toList, command], descriptors, number }
  let (ended, world) := launch process { m.world with lastProcess := number }
  set { m with world }
  match ended with
  | some status => if world.stopped.isSome then throw .spent else return status
  | none => throw .spent

def statusOf : Worker.ExitStatus → Nat
  | .exited code => code
  | .killed signal => 256 + signal

def pointed (descriptor id : Nat) (m : Machine) : Descriptors :=
  (descriptor, id) :: m.process.descriptors.filter (·.1 != descriptor)

def feed (launch : Launch) (command text : Octets) : Action Nat := do
  let m ← get
  let (id, world) := m.world.add { target := .source text, reads := true, writes := false }
  set { m with world }
  return statusOf (← shell launch command (pointed 0 id m))

def collect (launch : Launch) (command : Octets) : Action (Octets × Nat) := do
  flushFiles
  let before := (← get).world
  let (sink, id, world) := (before.withPatience 65536).addSink
  modify ({ · with world })
  let status ← tryCatch (do return statusOf (← shell launch command (pointed 1 id (← get)))) fun halt => do
    if (← get).world.isFlooded && (← get).world.stopped.isNone then return 256 + 13 else throw halt
  let world := (← get).world.drain sink
  let text := world.collected sink
  modify ({ · with
    world := { world.dropSink sink id with
      patience := before.patience, ceiling := before.ceiling, cut := before.cut } })
  return (text, status)

def write (isCommand : Bool) (name : Octets) (appends : Bool) (text : Octets) : Action Unit := do
  let isMeant (o : Outlet) : Bool := o.name = name && o.file.isNone = isCommand
  let m ← get
  match m.outlets.find? isMeant with
  | some o =>
    set { m with
      outlets := { o with pending := text :: o.pending } :: m.outlets.filter (!isMeant ·) }
  | none =>
    if isCommand then
      flushFiles
      modify fun m => { m with outlets := { name, file := none, pending := [text] } :: m.outlets }
    else
      match m.world.openPath m.process.here m.process.descriptors (pathOf name)
          (if appends then .append else .write) with
      | .error error =>
        fail (Octets.say "cannot open \"" ++ name ++
          Octets.say s!"\" for output ({error.reason})")
      | .ok (id, world) =>
        set { m with world, outlets := { name, file := some id, pending := [text] } :: m.outlets }
  if name = "/dev/stderr".toList then flushFile name

def close (launch : Launch) (name : Octets) : Action Int := do
  let m ← get
  let inlet := m.inlets.find? (·.name = name)
  let outlet := m.outlets.find? (·.name = name)
  if outlet.any (·.file.isSome) then flushFile name
  modify fun m => { m with
    outlets := m.outlets.filter (·.name != name)
    inlets := m.inlets.filter (·.name != name) }
  match outlet, inlet with
  | some o, _ =>
    if o.file.isSome then return 0
    else return ← feed launch name o.pending.reverse.flatten
  | none, some i => return i.status
  | none, none => return -1

def finish (launch : Launch) : Action Unit := do
  let outlets := (← get).outlets
  for o in outlets do
    if o.file.isSome then
      flushFile o.name fun error => fail (Octets.say "close failed on file \"" ++ o.name ++
        Octets.say s!"\" ({error.reason})")
    else
      let _ ← feed launch o.name o.pending.reverse.flatten
  settleInput

def contentOf (m : Machine) (name : Octets) : Except SystemError Octets := do
  let (id, world) ← m.world.openPath m.process.here m.process.descriptors (pathOf name) .read
  world.unread id

def standardInput : Action Octets := do
  let m ← get
  let world := m.world.awaitAll (m.process.descriptors.map (·.2)) (m.process.descriptors.lookup 0)
  let m := { m with world }
  set m
  if world.stopped.isSome then throw .spent
  let content : Except SystemError Octets := match m.process.descriptors.lookup 0 with
    | some id => m.world.unread id
    | none => .error .badDescriptor
  match content with
  | .ok text => return text
  | .error error => fail (Octets.say s!"read error ({error.reason})")

def openStandard : Action Unit := do
  setVariable "FILENAME".toList (.text ['-'])
  setVariable "FNR".toList (.number 0)
  let text ← standardInput
  modify fun m => { m with
    input := { m.input with
      rest := some text, isOpened := true, standard := some (text.length, 0) } }

def assignment? (text : Octets) : Option (Octets × Value) :=
  let name := text.takeWhile (· != '=')
  if Octets.isName name && name.length < text.length then
    some (name, .ofInput (Lexeme.unescape (text.drop (name.length + 1))))
  else none

def openNext : (fuel : Nat) → Action Bool
  | 0 => return false
  | fuel + 1 => do
    settleInput
    modify fun m => { m with input := { m.input with standard := none } }
    let m ← get
    let goOn : Action Bool := openNext fuel
    if (whole (← valueOf "ARGC").toNumber) ≤ m.input.next then
      if m.input.isOpened then return false
      openStandard
      return true
    modify fun m => { m with input := { m.input with next := m.input.next + 1 } }
    let id ← tableOf "ARGV".toList
    let (found, t) := (← table id).find (.number m.input.next)
    setTable id t
    let name ← toText (found.getD .unset)
    if name = [] then goOn
    else match assignment? name with
      | some (variable_, v) => do
        store v (.scalar variable_)
        goOn
      | none => do
        if name = ['-'] then
          openStandard
          return true
        setVariable "FILENAME".toList (.ofInput name)
        setVariable "FNR".toList (.number 0)
        match contentOf (← get) name with
        | .ok text =>
          modify fun m => { m with input := { m.input with rest := some text, isOpened := true } }
          return true
        | .error .isDirectory => fail (Octets.say "read error (Is a directory)")
        | .error error => fail (Octets.say "cannot open \"" ++ name ++
            Octets.say s!"\" ({error.reason})")

def leaveFile : Action Unit := do
  settleInput
  modify fun m => { m with input := { m.input with rest := none, standard := none } }

def nextOperandRecord : (fuel : Nat) → Action (Option Octets)
  | 0 => return none
  | fuel + 1 => do
    match (← get).input with
    | { isOver := true, .. } => return none
    | { rest := none, .. } =>
      let operands := (whole (← valueOf "ARGC").toNumber).toNat
      if ← openNext (operands + 2) then nextOperandRecord fuel
      else
        modify fun m => { m with input := { m.input with isOver := true } }
        return none
    | { rest := some text, .. } =>
      let separator ← textOf "RS"
      match ← understood separator (nextRecord separator text) with
      | some (record, rest) =>
        modify fun m => { m with input := { m.input with rest := some rest } }
        count "NR"
        count "FNR"
        return some record
      | none =>
        modify fun m => { m with input := { m.input with rest := some [] } }
        leaveFile
        nextOperandRecord fuel

def nextInput : Action (Option Octets) := do
  nextOperandRecord (2 * (whole (← valueOf "ARGC").toNumber).toNat + 4)

def openInlet (launch : Launch) (isCommand : Bool) (name : Octets) : Action Bool := do
  if (← get).inlets.any fun i => i.name = name && i.isCommand = isCommand then return true
  if isCommand then
    let (rest, status) ← collect launch name
    modify fun m => { m with inlets := { name, isCommand, rest, status } :: m.inlets }
    return true
  if name = ['-'] || name = "/dev/stdin".toList then
    settleInput
    let rest ← standardInput
    modify fun m => { m with
      world := match m.process.descriptors.lookup 0 with
        | some id => m.world.pass id rest.length
        | none => m.world
      inlets := { name, isCommand, rest } :: m.inlets }
    return true
  match contentOf (← get) name with
  | .ok rest =>
    modify fun m => { m with inlets := { name, isCommand, rest } :: m.inlets }
    return true
  | .error .isDirectory => fail (Octets.say "read error (Is a directory)")
  | .error _ => return false

def readInlet (launch : Launch) (isCommand : Bool) (name : Octets) : Action (Except Int Octets) := do
  unless ← openInlet launch isCommand name do return .error (-1)
  let isMeant (i : Inlet) : Bool := i.name = name && i.isCommand = isCommand
  let m ← get
  match m.inlets.find? isMeant with
  | none => return .error (-1)
  | some i =>
    let separator ← textOf "RS"
    let put (rest : Octets) : Action Unit := modify fun m =>
      { m with inlets := m.inlets.map fun i => if isMeant i then { i with rest } else i }
    match ← understood separator (nextRecord separator i.rest) with
    | some (record, rest) =>
      put rest
      return .ok record
    | none =>
      put []
      return .error 0

end SvelteTransform.Sandbox.Awk
