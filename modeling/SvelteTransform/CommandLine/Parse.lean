import SvelteTransform.CommandLine.Basic

/-! From arguments to a command. Options may stand before or after the file, with their value
attached by `=` or as the next argument; `--` makes everything after it a file. An attached value
is looked at where it stands. A separate one is looked at when the next known argument comes or
the arguments end, so an argument that is not known is noticed before it. -/
namespace SvelteTransform.CommandLine

inductive Name where
  | resolveConfig
  | preprocess
  deriving DecidableEq, Repr

def Name.text : Name → String
  | .resolveConfig => "resolve-config"
  | .preprocess => "preprocess"

def Name.ofText? (text : String) : Option Name :=
  [Name.resolveConfig, .preprocess].find? (·.text = text)

inductive OptionName where
  | rootMode
  | config
  | projectRoot
  | maxBuffer
  | showConsoleLog
  | node
  | help
  deriving DecidableEq, Repr

namespace OptionName

def text : OptionName → List Char
  | .rootMode => "root-mode".toList
  | .config => "config".toList
  | .projectRoot => "project-root".toList
  | .maxBuffer => "max-buffer".toList
  | .showConsoleLog => "show-console-log".toList
  | .node => "node".toList
  | .help => "help".toList

def takesValue : OptionName → Bool
  | .showConsoleLog | .help => false
  | _ => true

def available : Name → List OptionName
  | .resolveConfig => [.rootMode, .config, .projectRoot, .help]
  | .preprocess =>
    [.rootMode, .config, .projectRoot, .maxBuffer, .showConsoleLog, .node, .help]

def find? (command : Name) (written : List Char) : Option OptionName :=
  (available command).find? (·.text = written)

end OptionName

inductive Shape where
  | separator
  | long (name : List Char) (attached : Option (List Char))
  | short (letters : List Char)
  | plain
  deriving DecidableEq, Repr

def splitAttached (written : List Char) : List Char × Option (List Char) :=
  match written.dropWhile (· != '=') with
  | [] => (written, none)
  | _ :: value => (written.takeWhile (· != '='), some value)

def Shape.of (argument : List Char) : Shape :=
  match argument with
  | ['-'] => .plain
  | ['-', '-'] => .separator
  | '-' :: '-' :: rest => .long (splitAttached rest).1 (splitAttached rest).2
  | '-' :: letters => .short letters
  | _ => .plain

structure Settled where
  file : Option Path := none
  rootMode : Option RootMode := none
  config : Option Path := none
  projectRoot : Option Path := none
  maxBuffer : Option Nat := none
  showLog : Bool := false
  node : Option Path := none
  deriving DecidableEq, Repr

def digitValue? (c : Char) : Option Nat :=
  if '0' ≤ c ∧ c ≤ '9' then some (c.toNat - '0'.toNat) else none

def digits? : Nat → List Char → Option Nat
  | n, [] => some n
  | n, c :: rest => do digits? (n * 10 + (← digitValue? c)) rest

def wholeNumber? (text : List Char) : Option Nat := do
  let text := if text.head? = some '+' then text.tail else text
  if text = [] then none
  let n ← digits? 0 text
  if n < UInt64.size then some n else none

def once {α : Type} (before : Option α) (value : α) : Except UsageError (Option α) :=
  if before.isSome then .error .repeated else .ok (some value)

namespace Settled

/-- Settles an option that takes a value. That it came before is noticed before its value is
looked at. -/
def setValue (s : Settled) (option : OptionName) (value : List Char) :
    Except UsageError Settled :=
  match option with
  | .rootMode => do
    if s.rootMode.isSome then throw .repeated
    match RootMode.ofName? (String.ofList value) with
    | some mode => return { s with rootMode := some mode }
    | none => throw .invalidValue
  | .maxBuffer => do
    if s.maxBuffer.isSome then throw .repeated
    match wholeNumber? value with
    | some limit => return { s with maxBuffer := some limit }
    | none => throw .malformedValue
  | .config => return { s with config := ← once s.config ⟨value⟩ }
  | .projectRoot => return { s with projectRoot := ← once s.projectRoot ⟨value⟩ }
  | .node => return { s with node := ← once s.node ⟨value⟩ }
  | .showConsoleLog | .help => .error .surplusValue

def setFlag (s : Settled) : OptionName → Except UsageError Settled
  | .help => .error .help
  | .showConsoleLog => if s.showLog then .error .repeated else .ok { s with showLog := true }
  | _ => .error .invalidValue

end Settled

/-- An option whose value comes separately: nothing yet, or a value still to be looked at. -/
inductive Pending where
  | nothing
  | awaiting (option : OptionName)
  | value (option : OptionName) (value : List Char)
  deriving DecidableEq, Repr

structure State where
  settled : Settled := {}
  pending : Pending := .nothing
  onlyFiles : Bool := false
  deriving DecidableEq, Repr

namespace State

def settle (s : State) : Except UsageError State :=
  match s.pending with
  | .nothing => .ok s
  | .awaiting _ => .error .invalidValue
  | .value option value => do
    return { s with settled := ← s.settled.setValue option value, pending := .nothing }

def file (s : State) (argument : List Char) : Except UsageError State := do
  if s.settled.file.isSome then throw .unknownArgument
  let s ← s.settle
  return { s with settled := { s.settled with file := some ⟨argument⟩ } }

def long (s : State) (command : Name) (name : List Char) (attached : Option (List Char)) :
    Except UsageError State :=
  match OptionName.find? command name with
  | none => .error .unknownArgument
  | some option =>
    match option.takesValue, attached with
    | true, some value => do
      let s ← s.settle
      return { s with settled := ← s.settled.setValue option value }
    | true, none => do
      let s ← s.settle
      return { s with pending := .awaiting option }
    | false, some _ => .error .surplusValue
    | false, none => do
      let s ← s.settle
      return { s with settled := ← s.settled.setFlag option }

def short (s : State) (letters : List Char) : Except UsageError State := do
  if letters.head? ≠ some 'h' then throw .unknownArgument
  let _ ← s.settle
  throw .help

def step (command : Name) (s : State) (argument : List Char) : Except UsageError State :=
  if s.onlyFiles then s.file argument
  else match Shape.of argument with
    | .separator => .ok { s with onlyFiles := true }
    | .long name attached => s.long command name attached
    | .short letters => s.short letters
    | .plain =>
      match s.pending with
      | .awaiting option => .ok { s with pending := .value option argument }
      | _ => s.file argument

def run (command : Name) (s : State) : List (List Char) → Except UsageError State
  | [] => s.settle
  | argument :: rest => do run command (← s.step command argument) rest

end State

def Settled.command (s : Settled) (name : Name) : Except UsageError Command :=
  match s.file with
  | none => .error .missingArgument
  | some file =>
    let config : ConfigArguments := ⟨file, s.rootMode.getD .auto, s.config, s.projectRoot⟩
    match name with
    | .resolveConfig => .ok (.resolveConfig config)
    | .preprocess =>
      .ok (.preprocess ⟨config, s.maxBuffer.getD defaultMaxBuffer, s.showLog, s.node⟩)

def parseCommand (name : Name) (arguments : List String) : Except UsageError Command := do
  let state ← State.run name {} (arguments.map (·.toList))
  state.settled.command name

def help : List String → UsageError
  | [] => .help
  | [name] => if name = "help" || (Name.ofText? name).isSome then .help else .unknownCommand
  | _ :: _ :: _ => .unknownCommand

def leadingShort (letters : List Char) : UsageError :=
  match letters.head? with
  | some 'h' => .help
  | some 'V' => .version
  | _ => .unknownArgument

def leadingLong (name : List Char) (attached : Option (List Char)) : UsageError :=
  let asked :=
    if name = "help".toList then some UsageError.help
    else if name = "version".toList then some .version
    else none
  match asked, attached with
  | none, _ => .unknownArgument
  | some _, some _ => .surplusValue
  | some asked, none => asked

def afterSeparator : List String → UsageError
  | [] => .noCommand
  | name :: _ =>
    if name = "help" || (Name.ofText? name).isSome then .unknownArgument else .unknownCommand

def parse : List String → Except UsageError Command
  | [] => .error .noCommand
  | first :: rest =>
    match Name.ofText? first with
    | some name => parseCommand name rest
    | none =>
      if first = "help" then .error (help rest)
      else match Shape.of first.toList with
        | .separator => .error (afterSeparator rest)
        | .long name attached => .error (leadingLong name attached)
        | .short letters => .error (leadingShort letters)
        | .plain => .error .unknownCommand

end SvelteTransform.CommandLine
