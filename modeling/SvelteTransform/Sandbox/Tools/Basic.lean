import SvelteTransform.Sandbox.Program

/-! What a program that starts no other one is given, and what it answers. -/
namespace SvelteTransform.Sandbox

structure Call where
  files : Files
  here : Inode
  arguments : List Octets
  environment : List (Octets × Octets)
  input : Unit → Except SystemError Octets
  held : Nat → Except SystemError Octets := fun _ => .error .notFound
  inputIsEndless : Bool := false
  output : Option Inode := none
  inputIsFile : Bool := false
  patience : Nat := Files.endless

inductive Taken where
  | nothing
  | bytes (count : Nat)
  | block (count : Nat)
  | all
  deriving DecidableEq, Repr

structure Reply where
  files : Files
  written : List (Nat × Octets) := []
  status : Nat := 0
  taken : Taken := .nothing
  cut : Bool := false
  pause : Nat := 0
  sent : List (Nat × Nat) := []

abbrev Running := StateM Reply

namespace Call

def name (c : Call) : Octets := c.arguments.headD []
def operands (c : Call) : List Octets := c.arguments.tail

def read (c : Call) (limit : Nat) (path : Octets) : Except SystemError Octets := do
  match ← c.files.find c.here (pathOf path) with
  | .node _ (.device (.descriptor n)) => if n = 0 then c.input () else c.held n
  | .node _ (.device .null) => return []
  | .node _ (.device .random) => return Octets.noise (min limit c.patience)
  | .node _ (.device _) => return List.replicate (min limit c.patience) '\x00'
  | .node _ node => return Octets.ofBytes (← Files.content node)
  | .absent _ => throw .notFound

end Call

namespace Tools

def printTo (descriptor : Nat) (text : Octets) : Running Unit := modify fun r =>
  { r with written := (descriptor, text) :: r.written }

def print (text : Octets) : Running Unit := printTo 1 text

def fails (status : Nat) : Running Unit := modify ({ · with status })

def tell (text : Octets) : Running Unit := printTo 2 text

def complain (c : Call) (text : Octets) (status : Nat := 1) : Running Unit := do
  tell (c.name ++ Octets.say ": " ++ text ++ ['\n'])
  fails status

def isTame (name : Octets) : Bool :=
  name != [] && name.all fun c => Octets.isNamePart c || "+,-./:@%".toList.contains c

def quoted (name : Octets) : Octets := '\'' :: name ++ ['\'']
def quotedIfWild (name : Octets) : Octets := if isTame name then name else quoted name

def complainOf (c : Call) (file : Octets) (error : SystemError) : Running Unit :=
  complain c (quotedIfWild file ++ Octets.say ": " ++ Octets.say error.reason)

def isEndless (c : Call) (path : Octets) : Bool :=
  match c.files.find c.here (pathOf path) with
  | .ok (.node _ (.device (.descriptor 0))) => c.inputIsEndless
  | .ok (.node _ (.device device)) => device.isEndless
  | _ => false

def readNamed (c : Call) (limit : Nat) (file : Octets) : Running (Except SystemError Octets) := do
  if c.patience < limit && (if file = ['-'] then c.inputIsEndless else isEndless c file) then
    modify ({ · with cut := true })
  if file = ['-'] then
    match c.input () with
    | .ok text =>
      -- What has been read once is not there again.
      let before := (← get).taken
      modify ({ · with taken := .all })
      return .ok <|
        if before = .all then [] else if limit < Files.endless then Octets.firstBytes limit text else text
    | .error error => return .error error
  else return c.read limit file

def needed (taken : Taken) : Running Unit := do
  if (← get).taken = .all then modify ({ · with taken })

def readAll (c : Call) (limit : Nat) (files : List Octets) : Running (List (Octets × Octets)) := do
  let mut found := []
  for file in if files = [] then [['-']] else files do
    match ← readNamed c limit file with
    | .ok text => found := (file, text) :: found
    | .error error => complainOf c file error
  return found.reverse

def readJoined (c : Call) (files : List Octets) : Running Octets := do
  return (← readAll c Files.endless files).flatMap (·.2)

structure Options where
  flags : String
  valued : String := ""
  optional : String := ""
  long : List (String × Char) := []
  mixed : Bool := true

structure Given where
  options : List (Char × Octets) := []
  operands : List Octets := []

namespace Given

def has (g : Given) (letter : Char) : Bool := g.options.any (·.1 = letter)

def value? (g : Given) (letter : Char) : Option Octets :=
  (g.options.reverse.find? (·.1 = letter)).map (·.2)

end Given

def Options.letters (o : Options) (next : Option Octets) :
    Octets → Except Octets (List (Char × Octets) × Bool)
  | [] => .ok ([], false)
  | c :: rest =>
    if o.optional.toList.contains c then .ok ([(c, rest)], false)
    else if o.valued.toList.contains c then
      if rest != [] then .ok ([(c, rest)], false)
      else match next with
        | some value => .ok ([(c, value)], true)
        | none => .error (Octets.say "option requires an argument -- " ++ quoted [c])
    else if o.flags.toList.contains c then do
      let (found, usesNext) ← o.letters next rest
      return ((c, []) :: found, usesNext)
    else .error (Octets.say "invalid option -- " ++ quoted [c])

def Options.longOption (o : Options) (next : Option Octets) (text : Octets) :
    Except Octets ((Char × Octets) × Bool) :=
  let name := text.takeWhile (· != '=')
  let exact := o.long.find? fun (long, _) => long.toList = name
  match exact.or (o.long.find? fun (long, _) => name.isPrefixOf long.toList) with
  | none => .error (Octets.say "unrecognized option " ++ quoted ('-' :: '-' :: text))
  | some (_, c) =>
    if name.length < text.length then .ok ((c, text.drop (name.length + 1)), false)
    else if o.valued.toList.contains c then
      match next with
      | some value => .ok ((c, value), true)
      | none => .error (Octets.say "option " ++ quoted ('-' :: '-' :: name) ++
          Octets.say " requires an argument")
    else .ok ((c, []), false)

def Options.parse (o : Options) : (fuel : Nat) → List Octets → Except Octets Given
  | 0, _ | _, [] => .ok {}
  | fuel + 1, argument :: rest =>
    let goOn (found : List (Char × Octets)) (usesNext : Bool) : Except Octets Given := do
      let g ← o.parse fuel (if usesNext then rest.tail else rest)
      return { g with options := found ++ g.options }
    match argument with
    | ['-', '-'] => .ok { operands := rest }
    | '-' :: '-' :: text => do
      let (found, usesNext) ← o.longOption rest.head? text
      goOn [found] usesNext
    | '-' :: c :: text => do
      let (found, usesNext) ← o.letters rest.head? (c :: text)
      goOn found usesNext
    | operand =>
      if o.mixed then do
        let g ← o.parse fuel rest
        return { g with operands := operand :: g.operands }
      else .ok { operands := operand :: rest }

def tryHelp (c : Call) (text : Octets) (status : Nat := 1) : Running Unit := do
  complain c text status
  tell (Octets.say "Try '" ++ c.name ++ Octets.say " --help' for more information.\n")

def withOptions (c : Call) (o : Options) (body : Given → Running Unit) (status : Nat := 1) :
    Running Unit := do
  match o.parse (c.operands.length) (c.operands) with
  | .ok given => body given
  | .error text => tryHelp c text status

def choice {α : Type} (option : String) (known : List (String × α)) (text : Octets) :
    Except Octets α :=
  let exact := known.find? fun (name, _) => name.toList = text
  let starting := known.filter fun (name, _) => text.isPrefixOf name.toList
  match exact, starting with
  | some (_, a), _ | none, [(_, a)] => .ok a
  | none, _ =>
    let problem := if starting.isEmpty then "invalid" else "ambiguous"
    let lines := known.map fun (name, _) => Octets.say s!"\n  - '{name}'"
    .error (Octets.say s!"{problem} argument " ++ quoted text ++
      Octets.say s!" for '--{option}'\nValid arguments are:" ++ lines.flatten)

def missingOperand (c : Call) (status : Nat := 1) : Running Unit :=
  tryHelp c (Octets.say "missing operand") status

end Tools
end SvelteTransform.Sandbox
