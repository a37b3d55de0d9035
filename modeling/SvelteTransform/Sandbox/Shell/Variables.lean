import SvelteTransform.Sandbox.Shell.Store

/-! Commands of the shell that read and change variables, options and arguments. -/
namespace SvelteTransform.Sandbox.Shell

def numberArgument (text : Octets) : Action Nat := do
  if Octets.isNumber text && Octets.natural text ≤ 2147483647 then return Octets.natural text
  fail (Octets.say "Illegal number: " ++ text)

def shortOptions (known : String) : List Octets → Action (Octets × List Octets)
  | ['-', '-'] :: rest => return ([], rest)
  | ('-' :: c :: letters) :: rest => do
    match (c :: letters).find? (!known.toList.contains ·) with
    | some wrong => fail (Octets.say "Illegal option -" ++ [wrong])
    | none =>
      let (found, rest) ← shortOptions known rest
      return (c :: letters ++ found, rest)
  | rest => return ([], rest)

def quoted (text : Octets) : Octets :=
  let rec parts : (fuel : Nat) → Octets → Octets
    | 0, _ | _, [] => []
    | fuel + 1, rest =>
      let plain := rest.takeWhile (· != '\'')
      let marks := (rest.drop plain.length).takeWhile (· = '\'')
      let after := rest.drop (plain.length + marks.length)
      let second := if marks = [] then [] else '"' :: marks ++ ['"']
      '\'' :: plain ++ '\'' :: second ++ parts fuel after
  if text = [] then ['\'', '\''] else parts text.length text

def printFor (name : Octets) (text : Octets) (status : Nat := 0) : Action Unit := do
  finish status
  match ← emit 1 text with
  | .ok () => return
  | .error error =>
    complain (← inDialect (name ++ Octets.say ": I/O error")
      (Octets.say s!"write error: {error.reason}"))
    finish 1

def say (text : Octets) : Action Unit := do
  let _ ← emit 1 text

def assignmentOf (text : Octets) : Octets × Option Octets :=
  let name := text.takeWhile (· != '=')
  (name, if name.length < text.length then some (text.drop (name.length + 1)) else none)

def sorted (bindings : List (Octets × Binding)) : List (Octets × Binding) :=
  bindings.mergeSort fun (a, _) (b, _) => !(b < a : Bool)

def listing (start : String) (bindings : List (Octets × Binding)) : Octets :=
  (sorted bindings).flatMap fun (name, b) =>
    Octets.say start ++ name ++ (match b.value with
      | some value => '=' :: quoted value
      | none => []) ++ ['\n']

def mark (name : String) (isMarked : Binding → Bool) (set_ : Binding → Binding)
    (arguments : List Octets) : Action Unit := do
  let (letters, names) ← shortOptions "p" arguments
  finish 0
  let lists := names = [] || letters != []
  if lists then
    say (listing s!"{name} " ((← get).bindings.filter (isMarked ·.2)))
  for argument in if lists then [] else names do
    let (variable_, value) := assignmentOf argument
    unless Octets.isName variable_ do fail (variable_ ++ Octets.say ": bad variable name")
    if let some value := value then assign variable_ value
    modify fun s => s.bind variable_ (set_ (s.binding variable_))

def unset (arguments : List Octets) : Action Unit := do
  let (letters, names) ← shortOptions "vf" arguments
  finish 0
  for name in names do
    if letters.getLast? = some 'f' then
      modify fun s => { s with functions := s.functions.filter (·.1 != name) }
    else
      unless Octets.isName name do fail (name ++ Octets.say ": bad variable name")
      if ((← get).binding name).readonly then fail (name ++ Octets.say ": is read only")
      modify (·.drop name)

def localize (arguments : List Octets) : Action Unit := do
  if (← get).covered = [] || (← get).functionDepth = 0 then fail (Octets.say "not in a function")
  finish 0
  for argument in arguments do
    let (name, value) := assignmentOf argument
    if name = ['-'] then
      cover ['-']
    else
      unless Octets.isName name do fail (name ++ Octets.say ": bad variable name")
      cover name
      if let some value := value then assign name value

def optionNames : List (Char × String) :=
  [('e', "errexit"), ('f', "noglob"), ('I', "ignoreeof"), ('i', "interactive"), ('m', "monitor"),
   ('n', "noexec"), ('s', "stdin"), ('x', "xtrace"), ('v', "verbose"), ('V', "vi"), ('E', "emacs"),
   ('C', "noclobber"), ('a', "allexport"), ('b', "notify"), ('u', "nounset"),
   ('p', "privileged"), ('\x01', "nolog"), ('\x02', "debug")]

def State.switch (s : State) (letter : Char) (on : Bool) : State :=
  let wanted (c : Char) : Bool := if c = letter then on else s.options.contains c
  let order : Octets := match s.dialect with
    | .dash => optionNames.map fun option => option.1
    | .bash => "abefhkmnptuvxBCEHPTcs".toList
  { s with options := order.filter wanted }

def listOptions (asCommands : Bool) : Action Unit := do
  let s ← get
  unless asCommands do say (Octets.say "Current option settings\n")
  for (letter, name) in optionNames do
    let on := s.has letter
    say <| if asCommands then Octets.say (s!"set " ++ (if on then "-" else "+") ++ s!"o {name}\n")
      else Octets.say (name ++ String.ofList (List.replicate (16 - name.length) ' ') ++
        (if on then "on\n" else "off\n"))

def switchNamed (on : Bool) (name : Octets) : Action Unit := do
  match optionNames.find? (·.2.toList = name) with
  | some (letter, _) => modify (·.switch letter on)
  | none => fail (Octets.say (if on then "Illegal option -o " else "Illegal option +o ") ++ name)

def switchLetters (on : Bool) (next : Option Octets) : Octets → Action Bool
  | [] => return false
  | 'o' :: rest => do
    match next with
    | some name =>
      switchNamed on name
      let _ ← switchLetters on none rest
      return true
    | none =>
      listOptions (!on)
      switchLetters on none rest
  | c :: rest => do
    unless optionNames.any (·.1 = c) do
      fail (Octets.say (if on then "Illegal option -" else "Illegal option +") ++ [c])
    modify (·.switch c on)
    switchLetters on next rest

def setOptions : (fuel : Nat) → List Octets → Action Unit
  | 0, _ | _, [] => return
  | fuel + 1, argument :: rest => do
    let switchAll (on : Bool) (letters : Octets) : Action Unit := do
      if ← switchLetters on rest.head? letters then setOptions fuel rest.tail
      else setOptions fuel rest
    match argument with
    | ['-', '-'] => modify ({ · with arguments := rest })
    | ['-'] =>
      modify fun s => (s.switch 'x' false).switch 'v' false
      if rest != [] then modify ({ · with arguments := rest })
    | '-' :: letters => switchAll true letters
    | '+' :: letters => switchAll false letters
    | _ => modify ({ · with arguments := argument :: rest })

def setCommand (arguments : List Octets) : Action Unit := do
  finish 0
  if arguments = [] then
    say (listing "" ((← get).bindings.filter (·.2.value.isSome)))
  else setOptions (arguments.length + 1) arguments

def shift (arguments : List Octets) : Action Unit := do
  let n ← match arguments with
    | [] => pure 1
    | text :: _ => numberArgument text
  let s ← get
  if s.arguments.length < n then fail (Octets.say "can't shift that many")
  set { s with arguments := s.arguments.drop n, status := 0 }

def inputLine (raw : Bool) : (fuel : Nat) → Octets → List (Char × Bool) × Nat × Bool
  | 0, _ | _, [] => ([], 0, false)
  | fuel + 1, c :: rest =>
    if c = '\n' then ([], 1, true)
    else if c = '\\' && !raw then
      match rest with
      | [] => ([], 1, false)
      | d :: rest =>
        let (line, count, ended) := inputLine raw fuel rest
        (if d = '\n' then line else (d, true) :: line, count + 2, ended)
    else
      let (line, count, ended) := inputLine raw fuel rest
      (if c = '\x00' then line else (c, false) :: line, count + 1, ended)

def lineFields (separators : Octets) : (names : Nat) → List (Char × Bool) → List Octets
  | 0, _ => []
  | names + 1, line =>
    let separates : Char × Bool → Bool := fun (c, escaped) => !escaped && separators.contains c
    let isBlank : Char × Bool → Bool := fun (c, escaped) =>
      separates (c, escaped) && (c = ' ' || c = '\t' || c = '\n')
    let field := line.takeWhile (!separates ·)
    let rest := (line.drop field.length).dropWhile isBlank
    let rest := match rest with
      | c :: more => if separates c then more.dropWhile isBlank else rest
      | [] => []
    if names = 0 then
      if rest = [] then [field.map (·.1)]
      else [((line.reverse.dropWhile isBlank).reverse).map (·.1)]
    else field.map (·.1) :: lineFields separators names rest

def readOptions : (fuel : Nat) → List Octets → Action (Bool × List Octets)
  | fuel + 1, ('-' :: c :: letters) :: rest => do
    if c = '-' && letters = [] then return (false, rest)
    else if c = 'p' then readOptions fuel (if letters = [] then rest.tail else rest)
    else if c = 'r' then
      let rest := if letters = [] then rest else ('-' :: letters) :: rest
      return (true, (← readOptions fuel rest).2)
    else fail (Octets.say "Illegal option -" ++ [c])
  | _, rest => return (false, rest)

def awaitLine (raw : Bool) : (fuel : Nat) → Action (List (Char × Bool) × Nat × Bool)
  | 0 => throw .spent
  | fuel + 1 => do
    let s ← get
    if s.world.stopped.isSome then throw .spent
    let source := s.descriptors.lookup 0
    let text := match source.map s.world.unread with
      | some (.ok text) => text
      | _ => []
    let found := inputLine raw (text.length + 1) text
    match if found.2.2 then none else s.world.awaitMore? s.held source with
    | some world =>
      set { s with world }
      awaitLine raw fuel
    | none => return found

def readLine (arguments : List Octets) : Action Unit := do
  let (raw, names) ← readOptions (arguments.flatten.length + 1) arguments
  if names = [] then fail (Octets.say "arg count")
  let (line, count, ended) ← awaitLine raw ((← get).world.wakings + 1)
  let s ← get
  if let some id := s.descriptors.lookup 0 then set { s with world := s.world.pass id count }
  let separators := s.separators
  let blank : Char × Bool → Bool := fun (c, escaped) =>
    !escaped && separators.contains c && (c = ' ' || c = '\t' || c = '\n')
  let fields := lineFields separators names.length (line.dropWhile blank)
  finish (if ended then 0 else 1)
  for (name, i) in names.zipIdx do
    unless Octets.isName name do fail (name ++ Octets.say ": bad variable name")
    assign name ((fields[i]?).getD [])

def optionIndex : Octets := "OPTIND".toList

def nextOption (arguments : List Octets) : Action Unit := do
  match arguments with
  | letters :: name :: rest =>
    let s ← get
    let words := if rest = [] then s.arguments else rest
    let count := ((s.value? optionIndex).map Octets.natural).getD 1
    -- An argument that has been begun counts as passed.
    let offset := if s.optionPlace.1 = count then s.optionPlace.2 else 0
    let next := if offset = 0 then count + 1 else count
    let silent := letters.head? = some ':'
    let told (count offset : Nat) (found : Octets) (value : Option Octets) (status : Nat) :
        Action Unit := do
      assign optionIndex (Octets.ofInt count)
      modify ({ · with optionPlace := (count, offset) })
      match value with
      | some value => assign "OPTARG".toList value
      | none => modify (·.drop "OPTARG".toList)
      assign name found
      finish status
    let word := (words[next - 2]?).getD []
    match if offset = 0 then word else '-' :: word.drop offset with
    | ['-', '-'] => told next 0 ['?'] none 1
    | '-' :: c :: after =>
      let nextOffset := if after = [] then 0 else if offset = 0 then 2 else offset + 1
      let place := letters.dropWhile (· != c)
      if c = ':' || place = [] then
        unless silent do
          let _ ← emit 2 (Octets.say "Illegal option -" ++ [c, '\n'])
        told next nextOffset ['?'] (if silent then some [c] else none) 0
      else if place[1]? = some ':' then
        if after != [] then told next 0 [c] (some after) 0
        else match words[next - 1]? with
          | some value => told (next + 1) 0 [c] (some value) 0
          | none =>
            if silent then told next 0 [':'] (some [c]) 0
            else
              let _ ← emit 2 (Octets.say "No arg for -" ++ c :: Octets.say " option\n")
              told next 0 ['?'] none 0
      else told next nextOffset [c] (some []) 0
    | _ => told count 0 ['?'] none 1
  | _ => fail (Octets.say "Usage: getopts optstring var [arg...]")

end SvelteTransform.Sandbox.Shell
