import SvelteTransform.Sandbox.Shell.Builtin
import SvelteTransform.Sandbox.Shell.Larger.Options

/-! How a shell is started: its options, its script and the script's arguments. -/
namespace SvelteTransform.Sandbox.Shell

inductive Origin where
  | text (script : Octets)
  | file (path : Octets)
  | input
  deriving DecidableEq

structure Invocation where
  origin : Origin
  name : Octets
  arguments : List Octets
  options : List (Char × Bool)
  switches : List (String × Bool) := []

namespace Invocation

structure Seen where
  options : List (Char × Bool) := []
  asText : Bool := false
  fromInput : Bool := false
  switches : List (String × Bool) := []

def letter (seen : Seen) (on : Bool) (c : Char) : Except Octets Seen :=
  if c = 'c' then .ok { seen with asText := true }
  else if c = 's' then .ok { seen with fromInput := true }
  else if c = 'l' then .ok seen
  else if optionNames.any (·.1 = c) then .ok { seen with options := seen.options ++ [(c, on)] }
  else .error (Octets.say (if on then "Illegal option -" else "Illegal option +") ++ [c])

def letters (on : Bool) (next : Option Octets) : Seen → Octets → Except Octets (Seen × Bool)
  | seen, [] => .ok (seen, false)
  | seen, 'o' :: rest => do
    let name := next.getD []
    match optionNames.find? (·.2.toList = name) with
    | some (c, _) =>
      let (seen, _) ← letters on none { seen with options := seen.options ++ [(c, on)] } rest
      return (seen, true)
    | none => throw (Octets.say (if on then "Illegal option -o " else "Illegal option +o ") ++ name)
  | seen, c :: rest => do letters on next (← letter seen on c) rest

def usage : String :=
  let names := ["debug", "debugger", "dump-po-strings", "dump-strings", "help", "init-file",
    "login", "noediting", "noprofile", "norc", "posix", "pretty-print", "rcfile", "restricted",
    "verbose", "version"]
  "Usage:\tbash [GNU long option] [option] ...\n" ++
  "\tbash [GNU long option] [option] script-file ...\nGNU long options:\n" ++
  String.join (names.map fun name => s!"\t--{name}\n") ++
  "Shell options:\n\t-ilrsD or -c command or -O shopt_option\t\t(invocation only)\n" ++
  "\t-abefhkmnptuvxBCEHPT or -o option"

def lettersLarger (on : Bool) : Seen → (next : List Octets) → Octets →
    Except Octets (Seen × Nat)
  | seen, _, [] => .ok (seen, 0)
  | seen, next, 'o' :: rest => do
    let name := next.headD []
    match largerOptions.find? (·.1.toList = name) with
    | some (name, letter) =>
      let seen := match letter with
        | some c => { seen with options := seen.options ++ [(c, on)] }
        | none => { seen with switches := seen.switches ++ [(name, on)] }
      let (seen, used) ← lettersLarger on seen next.tail rest
      return (seen, used + 1)
    | none => throw (Octets.say "line 0: bash: " ++ name ++ Octets.say ": invalid option name")
  | seen, next, 'O' :: rest => do
    let name := String.ofList (next.headD [])
    unless shoptNames.contains name do
      throw (Octets.say s!"line 0: {name}: invalid shell option name")
    let (seen, used) ← lettersLarger on { seen with switches := seen.switches ++ [(name, on)] }
      next.tail rest
    return (seen, used + 1)
  | seen, next, c :: rest =>
    if c = 'c' then lettersLarger on { seen with asText := true } next rest
    else if c = 's' then lettersLarger on { seen with fromInput := true } next rest
    else if "ilrD".toList.contains c then lettersLarger on seen next rest
    else if largerOptions.any (·.2 = some c) then
      lettersLarger on { seen with options := seen.options ++ [(c, on)] } next rest
    else .error ((if on then '-' else '+') :: c :: Octets.say (": invalid option\n" ++ usage))

def splitLarger : (fuel : Nat) → Seen → List Octets → Except Octets (Seen × List Octets)
  | 0, seen, rest => .ok (seen, rest)
  | _, seen, [] => .ok (seen, [])
  | fuel + 1, seen, argument :: rest =>
    match argument with
    | ['-', '-'] | ['-'] => .ok (seen, rest)
    | '-' :: '-' :: text =>
      match String.ofList text with
      | "posix" => splitLarger fuel { seen with switches := seen.switches ++ [("posix", true)] } rest
      | "verbose" => splitLarger fuel { seen with options := seen.options ++ [('v', true)] } rest
      | "rcfile" | "init-file" => splitLarger fuel seen rest.tail
      | "norc" | "noprofile" | "login" | "noediting" | "restricted" | "debugger" =>
        splitLarger fuel seen rest
      | _ => .error (argument ++ Octets.say (": invalid option\n" ++ usage))
    | '-' :: text => do
      let (seen, used) ← lettersLarger true seen rest text
      splitLarger fuel seen (rest.drop used)
    | '+' :: text => do
      let (seen, used) ← lettersLarger false seen rest text
      splitLarger fuel seen (rest.drop used)
    | _ => .ok (seen, argument :: rest)

def split : (fuel : Nat) → Seen → List Octets → Except Octets (Seen × List Octets)
  | 0, seen, rest => .ok (seen, rest)
  | _, seen, [] => .ok (seen, [])
  | fuel + 1, seen, argument :: rest =>
    let switch (on : Bool) (text : Octets) : Except Octets (Seen × List Octets) := do
      let (seen, usesNext) ← letters on rest.head? seen text
      split fuel seen (if usesNext then rest.tail else rest)
    match argument with
    | ['-', '-'] | ['-'] => .ok (seen, rest)
    | '-' :: text => switch true text
    | '+' :: text => switch false text
    | _ => .ok (seen, argument :: rest)

def ofArguments (dialect : Dialect) (arguments : List Octets) : Except Octets Invocation := do
  let own := arguments.headD []
  let (seen, operands) ← match dialect with
    | .dash => split (arguments.length + 1) {} arguments.tail
    | .bash => splitLarger (arguments.length + 1) {} arguments.tail
  let asked (origin : Origin) (name : Octets) (arguments : List Octets) : Invocation :=
    ⟨origin, name, arguments, seen.options, seen.switches⟩
  if seen.asText then
    match operands, dialect with
    | [], .dash => throw (Octets.say "-c requires an argument")
    | [], .bash => throw (Octets.say "-c: option requires an argument")
    | script :: rest, _ => return asked (.text script) (rest.headD own) rest.tail
  else if seen.fromInput then return asked .input own operands
  else match operands with
    | [] => return asked .input own []
    | path :: rest => return asked (.file path) path rest

end Invocation

def standardPath : Octets := "/usr/local/sbin:/usr/local/bin:/usr/sbin:/usr/bin:/sbin:/bin".toList

def State.knownDirectory (s : State) (told : Option Octets) : Octets :=
  let known := told.filter fun text =>
    text.head? = some '/' && s.kind text = some .directory &&
      (match s.world.files.find s.here (pathOf text) with
        | .ok (.node inode _) => inode = s.here
        | _ => false)
  (known.or s.physicalDirectory?).getD []

def State.begun (p : Process) (asked : Invocation) (parent : Nat) (world : World) : State := {
  world
  here := p.here
  bindings := (p.environment.filter fun (name, _) => Octets.isName name).map fun (name, value) =>
    (name, { value := some value, exported := true })
  name := asked.name
  arguments := asked.arguments
  descriptors := p.descriptors
  mask := p.mask
  ignores := p.ignores
  number := p.number
  process := p.number
  parent }

def State.start (p : Process) (asked : Invocation) (parent : Nat) (world : World) : State :=
  let s := State.begun p asked parent world
  let directory := s.knownDirectory (s.value? "PWD".toList)
  let s := { s with directory }.bind "PWD".toList { value := some directory, exported := true }
  let s := (s.set "IFS".toList [' ', '\t', '\n']).set "OPTIND".toList ['1']
  let s := ((s.set "PS1".toList ['#', ' ']).set "PS2".toList ['>', ' ']).set "PS4".toList ['+', ' ']
  let s := s.set "PPID".toList (Octets.ofInt parent)
  let s := if (s.value? "PATH".toList).isNone then s.set "PATH".toList standardPath else s
  asked.options.foldl (fun s (c, on) => s.switch c on) s

def State.startLarger (p : Process) (asked : Invocation) (parent : Nat) (world : World) : State :=
  let frames : List Frame := match asked.origin with
    | .file path => [⟨"main".toList, path, 0⟩]
    | _ => []
  let own := p.arguments.headD []
  let s := { State.begun p asked parent world with
    dialect := .bash
    habits := { switches := usualSwitches, frames, lastWord := own } }
  let directory := s.knownDirectory (s.value? "PWD".toList)
  let plain (name value : String) : Octets × Binding :=
    (name.toList, { value := some value.toList })
  let release := ["5", "2", "21", "1", "release", "x86_64-pc-linux-gnu"]
  let fixed : List (Octets × Binding) := [
    plain "BASH" "/usr/bin/bash", plain "BASH_VERSION" "5.2.21(1)-release",
    ("BASH_VERSINFO".toList, { value := some [], readonly := true
                               items := some (.ofList (release.map String.toList)) }),
    ("EUID".toList, { value := some ['0'], readonly := true, marks := ['i'] }),
    ("UID".toList, { value := some ['0'], readonly := true, marks := ['i'] }),
    ("PPID".toList, { value := some (Octets.ofInt parent), readonly := true, marks := ['i'] }),
    ("GROUPS".toList, { value := some [], items := some (.ofList [['0']]) }),
    plain "HOSTTYPE" "x86_64", plain "MACHTYPE" "x86_64-pc-linux-gnu",
    plain "OSTYPE" "linux-gnu", plain "IFS" " \t\n", plain "OPTERR" "1",
    ("OPTIND".toList, { value := some ['1'], marks := ['i'] }), plain "PS4" "+ "]
  let usual : List (Octets × Binding) := [
    ("PATH".toList, { value := some standardPath }), plain "TERM" "dumb",
    plain "SHELL" "/bin/bash"]
  let level := ((s.value? "SHLVL".toList).bind Octets.integer?).getD 0 + 1
  let oldDirectory := (s.bindings.lookup "OLDPWD".toList).bind fun b => b.value.filter fun text =>
    s.kind text = some .directory
  let bindings := s.bindings.filter fun (name, _) =>
    !fixed.any (·.1 = name) && name != "SHELLOPTS".toList
  let missing := usual.filter fun (name, _) => !bindings.any (·.1 = name)
  let s := { s with directory, bindings := bindings ++ fixed ++ missing }
  let s := s.bind "SHLVL".toList { value := some (Octets.ofInt level), exported := true }
  let s := s.bind "PWD".toList { value := some directory, exported := true }
  let s := s.bind "OLDPWD".toList { value := oldDirectory, exported := true }
  let start := match asked.origin with
    | .text _ => ['h', 'B', 'c']
    | .file _ => ['h', 'B']
    | .input => ['h', 'B', 's']
  let s := start.foldl (fun s c => s.switch c true) s
  let s := asked.options.foldl (fun s (c, on) => s.switch c on) s
  asked.switches.foldl (fun s (name, on) => s.switchNamed name on) s

end SvelteTransform.Sandbox.Shell
