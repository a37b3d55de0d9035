import SvelteTransform.Sandbox.Shell.Assignment
import SvelteTransform.Sandbox.Shell.Larger.Options

/-! Commands of the larger dialect that make variables and arrays, mark them and take them away. -/
namespace SvelteTransform.Sandbox.Shell

abbrev Argument := Octets ⊕ Given

namespace Argument

def text : Argument → Octets
  | .inl text => text
  | .inr given => given.spelled id

def traced : Argument → Octets
  | .inr given =>
    if given.value.isRight then given.traced else Quoting.traced (given.spelled id)
  | .inl text => Quoting.traced text

end Argument

def markLetters (name : String) (known : Octets) : List Argument →
    Action (Octets × Octets × List Argument)
  | .inl ['-', '-'] :: rest => return ([], [], rest)
  | .inl ('-' :: c :: letters) :: rest => do
    if let some wrong := (c :: letters).find? (!known.contains ·) then
      invalidOption name ['-', wrong]
    let (adds, drops, rest) ← markLetters name known rest
    return (c :: letters ++ adds, drops, rest)
  | .inl ('+' :: c :: letters) :: rest => do
    if name = "export" || name = "readonly" then return ([], [], .inl ('+' :: c :: letters) :: rest)
    if let some wrong := (c :: letters).find? (!known.contains ·) then
      invalidOption name ['+', wrong]
    let (adds, drops, rest) ← markLetters name known rest
    return (adds, c :: letters ++ drops, rest)
  | rest => return ([], [], rest)

def Binding.hasAll (b : Binding) (letters : Octets) : Bool :=
  letters.all fun c => !"aAilnrtux".toList.contains c || b.letters.contains c

def State.sortedBindings (s : State) : List (Octets × Binding) := sorted s.bindings

def showDeclarations (letters : Octets) : Action Unit := do
  for (name, b) in (← get).sortedBindings do
    if b.hasAll letters then say (Binding.declaration name b ++ ['\n'])

def showVariables : Action Unit := do
  for (name, b) in (← get).sortedBindings do
    match b.items, b.value with
    | some items, _ => say (name ++ '=' :: items.written ++ ['\n'])
    | none, some text => say (name ++ '=' :: Quoting.plainest text ++ ['\n'])
    | none, none => pure ()

def isInFunction : Action Bool := return (← get).functionDepth != 0

def ownVariable (name : Octets) : Action Unit := do
  let s ← get
  let isOwn := (s.covered.headD []).any (·.1 = name)
  if !isOwn then
    cover name
    let old := s.binding name
    modify (·.bind name { value := none, exported := old.exported })

def changeMarks (name : Octets) (adds drops : Octets) : Action Unit := do
  let s ← get
  let old := s.binding name
  let items : Option Items ← do
    if adds.contains 'A' then
      match old.items with
      | some (.numbered _) =>
        complain (name ++ Octets.say ": cannot convert indexed to associative array")
        finish 1
        throw .failed
      | some items => pure (some items)
      | none => pure (some (.keyed (old.value.toList.map (['0'], ·))))
    else if adds.contains 'a' then
      match old.items with
      | some (.keyed _) =>
        complain (name ++ Octets.say ": cannot convert associative to indexed array")
        finish 1
        throw .failed
      | some items => pure (some items)
      | none => pure (some (.numbered (old.value.toList.map (0, ·))))
    else pure old.items
  let added := adds.filter "ilnuc".toList.contains
  let cases := "luc".toList
  let kept := old.marks.filter fun c =>
    !drops.contains c && !added.contains c && !(cases.contains c && added.any cases.contains)
  let value := if items.isSome && old.items.isNone then none else old.value
  modify (·.bind name { old with
    items, value, marks := kept ++ added.eraseDups
    exported := (old.exported || adds.contains 'x') && !drops.contains 'x' })

def invalidName (name : Octets) : Action Unit := do
  complain ('\x60' :: name ++ Octets.say "': not a valid identifier")
  finish 1

def anonymously (body : Action Unit) : Action Unit := do
  let before := (← get).performing
  modify ({ · with performing := none })
  body
  modify ({ · with performing := before })

def declareOne (adds drops : Octets) (isOwn : Bool) (argument : Argument) : Action Unit := do
  let given : Option Given := match argument with
    | .inr given => some given
    | .inl text => Given.ofArgument? text
  let name := match given, argument with
    | some given, _ => given.name
    | none, .inl text => text
    | none, .inr given => given.name
  let named := name.takeWhile (· != '[')
  unless Octets.isName name || (given.isNone && Octets.isName named) do
    return ← invalidName argument.text
  let name := if given.isNone then named else name
  let s ← get
  let isOnlyMarking := [some "export".toList, some "readonly".toList].contains s.performing
  let refuse : Action Unit := do
    let text := name ++ Octets.say ": readonly variable"
    if isOnlyMarking then anonymously (complain text) else complain text
    finish 1
  let isMine := s.covered.any fun mine => (mine.lookup name).isSome
  if isOwn && !isMine && (s.binding name).readonly then return ← refuse
  if isOwn then ownVariable name
  let s ← get
  let old := s.binding name
  if old.readonly && (given.isSome || drops.contains 'r') then return ← refuse
  let target := if adds.contains 'n' then name else s.referent 8 name
  changeMarks target adds drops
  if let some given := given then
    match given.value with
    | .inl text =>
      if adds.contains 'n' then
        modify fun s => s.bind target { s.binding target with value := some text }
      else Given.perform given
    | .inr _ => Given.perform given
  if adds.contains 'r' then
    modify fun s => s.bind target { s.binding target with readonly := true }

def showNamed (letters : Octets) (arguments : List Argument) : Action Unit := do
  for argument in arguments do
    let name := argument.text
    let s ← get
    let found := if letters.contains 'n' then s.bindings.lookup name
      else (s.bindings.lookup name).or (s.variableOf name)
    match found with
    | some b => say (Binding.declaration name b ++ ['\n'])
    | none =>
      complain (name ++ Octets.say ": not found")
      finish 1

def showFunctions (arguments : List Argument) (letters : Octets) : Action Unit := do
  let s ← get
  let names := (s.functions.map (·.1)).mergeSort fun a b => !(b < a : Bool)
  if arguments = [] then
    for name in names do say (Octets.say "declare -f " ++ name ++ ['\n'])
  else for argument in arguments do
    if names.contains argument.text then
      if letters.contains 'F' then say (argument.text ++ ['\n'])
    else finish 1

def declare (name : String) (arguments : List Argument) : Action Unit := do
  if name = "local" && !(← isInFunction) then
    complain (Octets.say "can only be used in a function")
    finish 1
    throw .failed
  let (adds, drops, rest) ← markLetters name "aAcfFgiIlnprtux".toList arguments
  finish 0
  if adds.contains 'f' || adds.contains 'F' then showFunctions rest adds
  else if adds.contains 'p' && rest != [] then showNamed adds rest
  else if rest = [] then
    if name = "local" then
      let mine := (((← get).covered.headD []).map (·.1)).mergeSort fun a b => !(b < a : Bool)
      showNamed ['n'] (mine.map .inl)
    else if adds = [] then showVariables
    else showDeclarations adds
  else
    let isOwn := (← isInFunction) && (name = "local" || !adds.contains 'g')
    for argument in rest do declareOne adds drops isOwn argument

def exportVariables (arguments : List Argument) : Action Unit := do
  let (adds, _, rest) ← markLetters "export" "fnp".toList arguments
  finish 0
  if adds.contains 'f' then return
  if rest = [] then showDeclarations ['x']
  else for argument in rest do
    if adds.contains 'n' then declareOne [] ['x'] false argument
    else declareOne ['x'] [] false argument

def fixVariables (arguments : List Argument) : Action Unit := do
  let (adds, _, rest) ← markLetters "readonly" "aAfp".toList arguments
  finish 0
  if adds.contains 'f' then return
  if rest = [] then showDeclarations ['r']
  else for argument in rest do declareOne ('r' :: adds) [] false argument

def unsetElement (name subscript : Octets) : Action Unit := do
  let s ← get
  let name := s.referent 8 name
  let old := s.binding name
  match old.items with
  | none => if subscript = ['0'] then modify (·.drop name)
  | some items =>
    if !items.isKeyed && (subscript = ['@'] || subscript = ['*']) then modify (·.drop name)
    else match ← keyOf name subscript with
      | some key =>
        modify (·.bind name { old with value := some [], items := some (items.erase key) })
      | none =>
        complain ('[' :: subscript ++ Octets.say "]: bad array subscript")
        finish 1

def unsetLarger (arguments : List Octets) : Action Unit := do
  let (letters, names) ← optionsOf "unset" "fvn" arguments
  let has (c : Char) : Bool := letters.any (·.1 = c)
  finish 0
  for argument in names do
    let s ← get
    let dropFunction : Action Unit := modify fun s =>
      { s with functions := s.functions.filter (·.1 != argument) }
    if has 'f' then dropFunction
    else
      let name := argument.takeWhile (· != '[')
      let rest := argument.drop name.length
      if !Octets.isName name then
        if !has 'v' && (s.functions.lookup argument).isSome then dropFunction
        else
          complain ('\x60' :: argument ++ Octets.say "': not a valid identifier")
          finish 1
      else
        let target := if has 'n' then name else s.referent 8 name
        if (s.binding target).readonly then
          complain (name ++ Octets.say ": cannot unset: readonly variable")
          finish 1
        else if rest.getLast? = some ']' then unsetElement target (rest.tail.dropLast)
        else if (s.bindings.lookup target).isSome then modify (·.drop target)
        else if !has 'v' then dropFunction

end SvelteTransform.Sandbox.Shell
