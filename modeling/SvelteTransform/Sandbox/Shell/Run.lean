import SvelteTransform.Sandbox.Awk.Invocation
import SvelteTransform.Sandbox.Find.Run
import SvelteTransform.Sandbox.Shell.Called
import SvelteTransform.Sandbox.Shell.Invocation
import SvelteTransform.Sandbox.Shell.Larger.Builtin
import SvelteTransform.Sandbox.Shell.Subshell
import SvelteTransform.Sandbox.Tools.Catalog
import SvelteTransform.Sandbox.Tools.Dispatch
import SvelteTransform.Sandbox.Tools.Launcher

/-! Running programs: the shell, and what it starts. Every step costs fuel; a script that has used
up its fuel is taken to go on for ever. -/
namespace SvelteTransform.Sandbox.Shell

abbrev Outcome := Option Worker.ExitStatus × World

def trace (output : Option Nat) (line : List Octets) : Action Unit := do
  let s ← get
  if s.has 'x' then
    if let some id := output then
      let start := (s.value? "PS4".toList).getD []
      let start := match s.dialect with
        | .dash => start
        | .bash => List.replicate (s.habits.nesting - 1) (start.headD '+') ++ start
      let text := start ++ [' '].intercalate line ++ ['\n']
      if let .ok world := s.world.write id text then set { s with world }

def traceLine (line : List Octets) : Action Unit := do
  trace ((← get).descriptors.lookup 2) line

def traceGiven (arguments : List Argument) : Action Unit := do
  for argument in arguments do
    if let .inr given := argument then traceLine [given.traced]

def startFailure (error : SystemError) : String × Nat :=
  match error with
  | .notFound | .notDirectory => ("not found", 127)
  | .linkLoop | .nameTooLong => (error.reason, 127)
  | error => (error.reason, 126)

def startFailureLarger (s : State) (name : Octets) (error : SystemError) : String × Nat :=
  let isDirectory := match s.kind name with
    | some .directory => true
    | _ => false
  if !name.contains '/' then
    match error with
    | .notFound | .notDirectory => ("command not found", 127)
    | error => (error.reason, 126)
  else if isDirectory then (SystemError.isDirectory.reason, 126)
  else (error.reason, if error = .notFound then 127 else 126)

structure Text where
  content : Octets
  line : Nat := 1
  label : Option Octets := none
  isLast : Bool := false

def Text.source (t : Text) (s : State) : Source :=
  { rest := t.content, unused := s.unusedDocument, dialect := s.dialect
    text := t.content, line := t.line, firstLine := t.line }

def isAtEnd : (fuel : Nat) → Octets → Bool
  | 0, rest => rest = []
  | fuel + 1, rest =>
    match rest.dropWhile Octets.isSpace with
    | [] => true
    | '#' :: comment => isAtEnd fuel (comment.dropWhile (· != '\n'))
    | _ => false

def refuseText (label : Option Octets) (error : ScriptError) : Action Unit := do
  let before := (← get).habits.reading
  let name (reading : Option Octets) : Action Unit := modify fun s =>
    { s with line := error.line, habits := { s.habits with reading } }
  name label
  complain (Octets.say error.message)
  if let some text := error.more then complain (Octets.say text)
  if let some shown := error.shown then complain ('\x60' :: shown ++ ['\''])
  name before
  finish 2

def nested {α : Type} (body : Action α) : Action α := do
  let shift (add : Bool) : Action Unit := modify fun s => { s with habits := { s.habits with
    nesting := if add then s.habits.nesting + 1 else s.habits.nesting - 1 } }
  shift true
  let a ← tryCatch body fun halt => do
    shift false
    throw halt
  shift false
  return a

def noteStage : Action Unit := modify fun s =>
  if s.dialect = .bash then { s with stages := [s.status] } else s

def discarding (body : Action Unit) : Action Unit :=
  tryCatch body fun
    | .discarded => modify ({ · with performing := none })
    | halt => throw halt

def failing (body : Action Unit) : Action Unit :=
  tryCatch body fun
    | .failed | .discarded => pure ()
    | halt => throw halt

def environmentLarger (s : State) (replaces : Bool) (searchPath name : Octets) :
    List (Octets × Octets) :=
  let level := "SHLVL".toList
  let adjusted := s.exported.map fun (variable_, value) =>
    if replaces && s.habits.depth = 0 && variable_ = level then
      (variable_, Octets.ofInt ((Octets.integer? value).getD 1 - 1))
    else (variable_, value)
  let path := (located? s searchPath name).getD name
  (adjusted.filter (·.1 != ['_'])) ++ [(['_'], path)]

def runsScripts (name : Octets) : Bool :=
  ["eval", ".", "source", "builtin", "command"].contains (String.ofList name)

def closeChannel (number : Nat) : Action Unit := modify fun s =>
  let id := s.descriptors.lookup number
  { s with
    descriptors := s.descriptors.filter (·.1 != number)
    habits := { s.habits with channels := s.habits.channels.filter (·.1 != number) }
    world := { s.world with opened := s.world.opened.filter fun o => some o.1 != id } }

mutual
def run : (fuel : Nat) → (tested last : Bool) → Command → Action Unit
  | 0, _, _, _ => throw .spent
  | _, _, _, .nothing => return
  | fuel + 1, tested, last, .simple line assignments words redirects => do
    modify ({ · with line })
    if (← get).world.isFlooded || (← get).world.stopped.isSome then throw .spent
    unless (← get).has 'n' do
      match (← get).dialect with
      | .dash => runSimple fuel tested last assignments words redirects
      | .bash =>
        runLarger fuel tested last assignments words redirects
        noteStage
      settle fuel tested
  | fuel + 1, tested, _, .pipe left right => do
    let part (command : Command) : Action Unit := do
      -- A shell for a single command is not told of, and only one for a script with its own.
      if command matches .simple .. | .apart .. then modify fun s =>
        { s with habits := { s.habits with shells := s.habits.shells - 1 } }
      run fuel tested true command
    let isOwn := (← get).isOn "lastpipe"
    let last := if isOwn then run fuel tested false right else part right
    piped (atExit fuel) isOwn ((Command.stages left).map part ++ [last])
    if (← get).isOn "pipefail" then
      finish (((← get).stages.reverse.find? (· != 0)).getD 0)
    settle fuel tested
  | fuel + 1, _, _, .negated command => do
    run fuel true false command
    finish (if (← get).status = 0 then 1 else 0)
  | fuel + 1, tested, last, .both first second => do
    run fuel true false first
    if (← get).status = 0 then run fuel tested last second
  | fuel + 1, tested, last, .either first second => do
    run fuel true false first
    if (← get).status != 0 then run fuel tested last second
  | fuel + 1, tested, last, .sequence first .nothing => run fuel tested last first
  | fuel + 1, tested, last, .sequence first second => do
    run fuel tested false first
    run fuel tested last second
  | fuel + 1, tested, _, .background text command => do
    let command := match command with
      | .apart _ body => body
      | command => command
    beside text (atExit fuel) (run fuel tested true command)
  | fuel + 1, tested, last, .branch condition yes no => do
    run fuel true false condition
    if (← get).status = 0 then run fuel tested last yes
    else
      finish 0
      run fuel tested last no
  | fuel + 1, tested, _, .loop wanted condition body => do
    inLoop (runLoop fuel tested wanted condition body 0)
  | fuel + 1, tested, _, .forEach line name words body => do
    modify ({ · with line })
    let found ← words.mapM (Expansion.fields (capture fuel) fuel)
    if (← isLarger) && !Octets.isName name then
      complain ('\x60' :: name ++ Octets.say "': not a valid identifier")
      finish 1
      return
    finish 0
    inLoop do
      for field in found.flatten do
        if ← isLarger then
          traceLine ("for".toList :: name :: "in".toList :: found.flatten.map Quoting.traced)
        let isAssigned ← tryCatch (do
          assign name field
          return true) fun
            | .discarded => return false
            | halt => throw halt
        unless isAssigned do break
        unless ← loopBody (run fuel tested false body) do break
  | fuel + 1, tested, _, .pick line name words body => do
    modify ({ · with line })
    let found ← words.mapM (Expansion.fields (capture fuel) fuel)
    finish 0
    if found.flatten != [] then inLoop (runPicking fuel tested name found.flatten body true)
  | fuel + 1, tested, last, .choose line word branches => do
    modify ({ · with line })
    let text ← Expansion.whole (capture fuel) fuel .word word
    if ← isLarger then traceLine ["case".toList, Quoting.traced text, "in".toList]
    finish 0
    runChoice fuel tested last false text branches
  | fuel + 1, tested, last, .apart line body => do
    modify ({ · with line })
    if last && (← get).traps.isEmpty then
      modify fun s => { s with habits := { s.habits with shells := s.habits.shells + 1 } }
      run fuel tested true body
      throw .exited
    isolated (atExit fuel) (run fuel tested true body)
    noteStage
    settle fuel tested
  | fuel + 1, tested, _, .redirected line body redirects => do
    modify ({ · with line })
    let before := (← get).habits.channels
    let prepared ← Redirection.expand (capture fuel) fuel redirects
    Redirection.around prepared (pure ()) (run fuel tested false body)
    release fuel before
  | _, _, _, .define name body => do
    modify fun s =>
      let others := s.habits.sources.filter (·.1 != name)
      let sources := match s.habits.frames.head? with
        | some frame => (name, frame.source) :: others
        | none => others
      { s with
        functions := (name, body) :: s.functions.filter (·.1 != name)
        habits := { s.habits with sources } }
    finish 0
  | fuel + 1, tested, _, .judge line test => do
    modify ({ · with line })
    event fuel "DEBUG"
    failing <| performing ['[', '['] do
      finish 1
      let holds ← judge (capture fuel) traceLine fuel test
      finish (if holds then 0 else 1)
    noteStage
    settle fuel tested
  | fuel + 1, tested, _, .calculate line expression => do
    modify ({ · with line })
    event fuel "DEBUG"
    let _ ← calculation fuel expression
    noteStage
    settle fuel tested
  | fuel + 1, tested, _, .counting line start condition step body => do
    modify ({ · with line })
    if ← calculation fuel start then
      finish 0
      inLoop (runCounting fuel tested condition step body 0)
  | fuel + 1, tested, last, .timed command => do
    run fuel tested last command
    let _ ← emit 2 (Octets.say "\nreal\t0m0.000s\nuser\t0m0.000s\nsys\t0m0.000s\n")

def settle : (fuel : Nat) → (tested : Bool) → Action Unit
  | 0, _ => throw .spent
  | fuel + 1, tested => do
    notice (perform fuel)
    if (← isLarger) && !tested && (← get).status != 0 then event fuel "ERR"
    insist tested

def event : (fuel : Nat) → String → Action Unit
  | 0, _ => throw .spent
  | fuel + 1, name => do
    let s ← get
    match s.habits.events.lookup name with
    | some text =>
      if !s.habits.isTrapped && text != [] then
        set { s with habits := { s.habits with isTrapped := true } }
        let restore : Action Unit := modify fun now => { now with
          habits := { now.habits with isTrapped := false }, line := s.line }
        tryCatch (perform fuel text) fun halt => do
          restore
          throw halt
        restore
        modify ({ · with status := s.status, stages := s.stages })
    | none => return

def calculation : (fuel : Nat) → Word → Action Bool
  | 0, _ => throw .spent
  | fuel + 1, expression => do
    let text ← Expansion.whole (capture fuel) fuel .inside expression
    let isTrue : Action Bool := do
      traceLine ["((".toList, text, "))".toList]
      let value ← if text.all Octets.isSpace then pure 0 else computed text
      finish (if value = 0 then 1 else 0)
      return true
    let before := (← get).performing
    modify ({ · with performing := some "((".toList })
    let found ← tryCatch isTrue fun
      | .discarded => return false
      | halt => throw halt
    modify ({ · with performing := before })
    return found

def runCounting : (fuel : Nat) → (tested : Bool) → (condition step : Word) → Command →
    (status : Nat) → Action Unit
  | 0, _, _, _, _, _ => throw .spent
  | fuel + 1, tested, condition, step, body, status => do
    let isEmpty ← if condition.isEmpty then pure true
      else pure (match condition with
        | [.text text _] => text.all Octets.isSpace
        | _ => false)
    let found ← if isEmpty then pure true else calculation fuel condition
    if !found then return
    if !isEmpty && (← get).status != 0 then finish status
    else
      let goesOn ← loopBody (run fuel tested false body)
      if goesOn then
        let status := (← get).status
        if ← (if step.isEmpty then pure true else calculation fuel step) then
          runCounting fuel tested condition step body status

def runPicking : (fuel : Nat) → (tested : Bool) → (name : Octets) → List Octets → Command →
    (shows : Bool) → Action Unit
  | 0, _, _, _, _, _ => throw .spent
  | fuel + 1, tested, name, words, body, shows => do
    if shows then
      let _ ← emit 2 (menu 80 words)
    let _ ← emit 2 (((← get).value? "PS3".toList).getD "#? ".toList)
    readLarger ["REPLY".toList]
    if (← get).status != 0 then
      let _ ← emit 1 ['\n']
      finish 1
    else
      let reply := ((← get).value? "REPLY".toList).getD []
      if reply = [] then runPicking fuel tested name words body true
      else
        let n := if Octets.isNumber reply then Octets.natural reply else 0
        assign name (if n = 0 then [] else (words[n - 1]?).getD [])
        finish 0
        let goesOn ← loopBody (run fuel tested false body)
        if goesOn then
          let isKept := ((← get).value? "REPLY".toList).getD [] != []
          runPicking fuel tested name words body !isKept

def release : (fuel : Nat) → (before : List (Nat × Option (Nat × Nat × Command))) → Action Unit
  | 0, _ => throw .spent
  | fuel + 1, before => do
    let now := (← get).habits.channels
    for (number, reader) in now.take (now.length - before.length) do
      closeChannel number
      if let some (sink, id, script) := reader then
        let s ← get
        let world := s.world.drain sink
        let text := world.collected sink
        let (source, world) := (world.dropSink sink id).add
          { target := .source text, reads := true, writes := false }
        set { s with world }
        let input := s.descriptors.lookup 0
        Redirection.point 0 (some source)
        isolated (atExit fuel) (run fuel false true script)
        Redirection.point 0 input
        finish s.status

def runLoop : (fuel : Nat) → (tested wanted : Bool) → (condition body : Command) → (status : Nat) →
    Action Unit
  | 0, _, _, _, _, _ => throw .spent
  | fuel + 1, tested, wanted, condition, body, status => do
    let goesOn ← loopBody (run fuel true false condition)
    if !goesOn then return
    if ((← get).status = 0 : Bool) != wanted then finish status
    else
      let goesOn ← loopBody (run fuel tested false body)
      if goesOn then
        let status := (← get).status
        runLoop fuel tested wanted condition body status

def runChoice : (fuel : Nat) → (tested last through : Bool) → Octets → List Branch → Action Unit
  | 0, _, _, _, _, _ => throw .spent
  | _, _, _, _, _, [] => return
  | fuel + 1, tested, last, through, text, (patterns, body, ending) :: rest => do
    let covers (word : Word) : Action Bool := do
      let marked ← Expansion.pattern (capture fuel) fuel word
      if ← isLarger then
        let m := (← get).manner
        return Wildcard.covers m (Wildcard.ofMarked m marked) text
      return Pattern.covers (Pattern.ofMarked marked) text
    if through || (← patterns.anyM covers) then
      run fuel tested (last && ending = .done) body
      match ending with
      | .done => return
      | .through => runChoice fuel tested last true text rest
      | .again => runChoice fuel tested last false text rest
    else runChoice fuel tested last false text rest

def capture : (fuel : Nat) → Command → Action Octets
  | 0, _ => throw .spent
  | fuel + 1, script => do
    let body : Action Unit := match script with
      | .nothing => finish 0
      | script => run fuel false true script
    if !(← isLarger) then return ← captured (atExit fuel) body
    match script with
    | .simple _ [] [] [(0, .read, target)] =>
      -- A file by itself stands for its text.
      let path ← Expansion.whole (capture fuel) fuel .word target
      let s ← get
      match s.world.openPath s.here s.descriptors (pathOf path) .read with
      | .ok (id, world) =>
        modify ({ · with scriptStatus := some 0 })
        return (world.unread id).toOption.getD []
      | .error error =>
        complain (path ++ Octets.say s!": {error.reason}")
        modify ({ · with scriptStatus := some 1 })
        return []
    | _ =>
      captured (atExit fuel) do
        unless (← get).isOn "inherit_errexit" do modify (·.switch 'e' false)
        nested body

def perform : (fuel : Nat) → Octets → Action Unit
  | 0, _ => throw .spent
  | fuel + 1, text => do
    let s ← get
    let line := if s.dialect = .bash then s.line else 1
    let _ ← runText fuel false { content := text, line }

def atExit : (fuel : Nat) → Action Unit
  | 0 => throw .spent
  | fuel + 1 => do
    let s ← get
    if let some text := s.traps.lookup 0 then
      set { s with traps := s.traps.filter (·.1 != 0) }
      let _ ← runText fuel false { content := text }

def runSimple : (fuel : Nat) → (tested last : Bool) → List (Octets × Word) → List Word →
    List Redirect → Action Unit
  | 0, _, _, _, _, _ => throw .spent
  | fuel + 1, tested, last, assignments, words, redirects => do
    modify ({ · with scriptStatus := none })
    let arguments ← expandWords fuel none words
    let prepared ← Redirection.expand (capture fuel) fuel redirects
    let output := (← get).descriptors.lookup 2
    let exports (name : Octets) : Action Unit := modify fun s =>
      s.bind name { s.binding name with exported := true }
    let assignAll (before after : Octets → Action Unit) : Action Unit := do
      let assigned ← assignments.mapM fun (name, word) => do
        let value ← Expansion.whole (capture fuel) fuel .assignment word
        before name
        assign name value
        after name
        return name ++ '=' :: value
      trace output (assigned ++ arguments)
    let nothing (_ : Octets) : Action Unit := pure ()
    let c := Called.ofArguments arguments
    if c.arguments.isEmpty then
      Redirection.around prepared (pure ()) do
        assignAll nothing nothing
        finish ((← get).scriptStatus.getD 0)
    else
      match kindOf (← get) c with
      | .special =>
        let body : Action Unit := do
          assignAll nothing (if c.replaces then exports else nothing)
          performing c.name (runBuiltin fuel tested c.name c.arguments.tail)
        let refused : Action Unit := throw Halt.failed
        if c.redirects then
          if ← Redirection.openAll prepared then body
          else
            finish 2
            refused
        else Redirection.around prepared refused body
      | kind =>
        Redirection.around prepared (pure ()) <| covering do
          assignAll cover exports
          match kind with
          | .function body => callFunction fuel tested c.name body c.arguments.tail
          | .program => launch fuel last c.standard c.arguments
          | _ =>
            let body : Action Unit := match c.describes with
              | some inSentence => do
                finish 0
                describe inSentence c.name
              | none => performing c.name (runBuiltin fuel tested c.name c.arguments.tail)
            let failed : Halt → Action Unit
              | .failed => pure ()
              | halt => throw halt
            tryCatch body failed

def runLarger : (fuel : Nat) → (tested last : Bool) → List (Octets × Word) → List Word →
    List Redirect → Action Unit
  | 0, _, _, _, _, _ => throw .spent
  | fuel + 1, tested, last, assignments, words, redirects => do
    modify ({ · with scriptStatus := none })
    event fuel "DEBUG"
    let before := (← get).habits.channels
    let arguments ← expandLarger fuel none words
    let prepared ← Redirection.expand (capture fuel) fuel redirects
    let output := (← get).descriptors.lookup 2
    let texts := arguments.map Argument.text
    let given (assignment : Octets × Word) : Action Given := do
      let g ← Given.ofAssignment (capture fuel) fuel assignment.1 assignment.2
      trace output [g.traced]
      return g
    let traceWords : Action Unit := trace output (arguments.map Argument.traced)
    if texts.isEmpty then
      Redirection.around prepared (pure ()) do
        finish 0
        for assignment in assignments do Given.perform (← given assignment)
        finish ((← get).scriptStatus.getD 0)
    else
      let c := Called.ofArguments texts
      let s ← get
      let function := if c.direct then none else s.functions.lookup c.name
      let isFunction := function.isSome && c.describes.isNone
      let isOwn := c.describes.isSome || c.arguments.isEmpty || s.performs c.name
      let temporarily (body : Action Unit) : Action Unit := do
        if assignments.isEmpty && !isFunction then
          traceWords
          body
        else covering do
          for assignment in assignments do
            let g ← given assignment
            cover g.name
            -- What must not change stays as it is, and the command goes on.
            tryCatch (Given.perform g) fun
              | .discarded => pure ()
              | halt => throw halt
            modify fun s => s.bind g.name { s.binding g.name with exported := true }
          traceWords
          body
      match if isFunction then function else none with
      | some body =>
        Redirection.around prepared (pure ()) <| temporarily do
          callFunction fuel tested c.name body c.arguments.tail
      | none =>
        if c.redirects then
          traceWords
          if ← Redirection.openAll prepared then finish 0 else finish 1
        else
          Redirection.around prepared (pure ()) <| temporarily do
            if isOwn then
              let skipped := texts.length - c.arguments.length
              ownCommand fuel tested c (arguments.drop (skipped + 1))
            else launch fuel last c.standard c.arguments
      modify fun s => { s with habits := { s.habits with lastWord := (texts.getLast?).getD [] } }
    release fuel before

def ownCommand : (fuel : Nat) → (tested : Bool) → Called → List Argument → Action Unit
  | 0, _, _, _ => throw .spent
  | fuel + 1, tested, c, arguments => do
    let body := match c.describes with
      | some inSentence =>
        failing (performing "command".toList (describeLarger inSentence c.arguments))
      | none =>
        if c.arguments.isEmpty then finish 0
        else if runsScripts c.name then runScripts fuel tested c.name c.arguments.tail
        else match String.ofList c.name with
          | "exec" => replaceShell fuel c.arguments.tail
          | "export" => do
            traceGiven arguments
            failing (performing c.name (exportVariables arguments))
          | "readonly" => do
            traceGiven arguments
            failing (performing c.name (fixVariables arguments))
          | name =>
            if Script.declarations.contains name then
              failing (performing c.name (declare name arguments))
            else match larger? name c.arguments.tail with
              | some act => failing (performing c.name act)
              | none => finish 0
    body

def replaceShell : (fuel : Nat) → List Octets → Action Unit
  | 0, _ => throw .spent
  | fuel + 1, arguments => do
    let asked : Action (List (Char × Octets) × List Octets) := optionsOf "exec" "cla:" arguments
    let name := "exec".toList
    let before := (← get).performing
    modify ({ · with performing := some name })
    let (letters, operands) ← asked
    let s ← get
    let program := operands.headD []
    if operands = [] then finish 0
    else
      match Program.find s.world.files s.here (some ((s.value? "PATH".toList).getD [])) operands with
      | .error error =>
        if error = .badFormat then launch fuel true false operands
        else
          let (text, status) := startFailureLarger s program error
          if program.contains '/' then
            modify ({ · with performing := before })
            complain (program ++ Octets.say s!": {text}")
            modify ({ · with performing := some name })
            complain (program ++ Octets.say s!": cannot execute: {text}")
          else complain (program ++ Octets.say ": not found")
          finish (if program.contains '/' then status else 127)
          modify ({ · with performing := before })
          unless s.isOn "execfail" do throw .exited
      | .ok _ =>
        modify ({ · with traps := [], performing := before })
        if letters.any (·.1 = 'c') then modify ({ · with bindings := [] })
        launch fuel true false operands
    modify ({ · with performing := before })

def runScripts : (fuel : Nat) → (tested : Bool) → (name : Octets) → List Octets → Action Unit
  | 0, _, _, _ => throw .spent
  | fuel + 1, tested, name, arguments => do
    let arguments := if arguments.head? = some ['-', '-'] then arguments.tail else arguments
    match String.ofList name with
    | "eval" =>
      let s ← get
      let line := if s.functionDepth = 0 then max s.line s.habits.readLine else s.line
      let ran ← runText fuel tested
        { content := [' '].intercalate arguments, line, label := some name }
      unless ran do finish 0
    | "builtin" =>
      match arguments with
      | [] => finish 0
      | own :: rest =>
        if (← get).performs own then
          ownCommand fuel tested { arguments := own :: rest, direct := true } (rest.map .inl)
        else failing (performing name (failLarger (own ++ Octets.say ": not a shell builtin")))
    | "command" => finish 0
    | _ =>
      match arguments with
      | [] => failing (performing name do
        complain (Octets.say "filename argument required")
        showUsage (String.ofList name))
      | path :: rest => runFileLarger fuel name path rest

def runFileLarger : (fuel : Nat) → (name path : Octets) → List Octets → Action Unit
  | 0, _, _, _ => throw .spent
  | fuel + 1, name, path, arguments => do
    let s ← get
    let isFile (path : Octets) : Bool := match s.kind path with
      | some (.file ..) => true
      | _ => false
    let found := if path.contains '/' then none
      else ((Path.cutAt ':' ((s.value? "PATH".toList).getD [])).map
        (Program.inDirectory · path)).find? isFile
    let full := found.getD path
    let isDirectory := match s.kind full with
      | some .directory => true
      | _ => false
    match s.world.openPath s.here s.descriptors (pathOf full) .read with
    | .error error =>
      complain (path ++ Octets.say s!": {error.reason}")
      finish 1
    | .ok (id, world) =>
      if isDirectory then failing (performing name (failLarger (path ++ Octets.say ": is a directory")))
      else
        let text := (world.unread id).toOption.getD []
        let frames := ⟨"source".toList, full, s.line⟩ :: s.habits.frames
        modify fun s => { s with
          habits := { s.habits with frames }
          arguments := if arguments = [] then s.arguments else arguments }
        let restore : Action Unit := modify fun now => { now with
          habits := { now.habits with frames := s.habits.frames }
          arguments := if arguments = [] then now.arguments else s.arguments
          line := s.line }
        let ran ← tryCatch (runText fuel false { content := text }) fun
          | .returned => return true
          | halt => do
            restore
            throw halt
        unless ran do finish 0
        restore
        event fuel "RETURN"

def expandLarger : (fuel : Nat) → (name : Option Octets) → List Word → Action (List Argument)
  | 0, _, _ => throw .spent
  | _, _, [] => return []
  | fuel + 1, name, word :: rest => do
    let declares := name.any fun name => Script.declarations.contains (String.ofList name)
    let found : List Argument ← match word, declares with
      | [.assignment target subscript appends value], true => do
        let given ← Given.ofPiece (capture fuel) fuel target subscript appends value
        pure [Sum.inr given]
      | word, true =>
        match Script.assignment? word with
        | some (target, value) => do
          let text ← Expansion.whole (capture fuel) fuel .assignment value
          pure [Sum.inr (Given.ofText target text)]
        | none => do pure ((← Expansion.fields (capture fuel) fuel word).map .inl)
      | word, false => do pure ((← Expansion.fields (capture fuel) fuel word).map .inl)
    let name := match name with
      | some name => if name = "command".toList || name = "builtin".toList then
          (found.head?.map Argument.text).or (some name) else some name
      | none => found.head?.map Argument.text
    return found ++ (← expandLarger fuel name rest)

def expandWords : (fuel : Nat) → (name : Option Octets) → List Word → Action (List Octets)
  | 0, _, _ => throw .spent
  | _, _, [] => return []
  | fuel + 1, name, word :: rest => do
    let whole := name.any takesAssignments && (Script.assignment? word).isSome
    let found ← if whole then do
        let (target, value) := (Script.assignment? word).getD ([], [])
        let text ← Expansion.whole (capture fuel) fuel .assignment value
        pure [target ++ '=' :: text]
      else Expansion.fields (capture fuel) fuel word
    let name := match name with
      | some name => if name = "command".toList then found.head?.or (some name) else some name
      | none => found.head?
    return found ++ (← expandWords fuel name rest)

def callFunction : (fuel : Nat) → (tested : Bool) → (name : Octets) → Command → List Octets →
    Action Unit
  | 0, _, _, _, _ => throw .spent
  | fuel + 1, tested, name, body, arguments => do
    let before ← get
    let source := (before.habits.sources.lookup name).getD "environment".toList
    let frames := ⟨name, source, before.line⟩ :: before.habits.frames
    -- Functions do not see to events, unless they are told to.
    let (kept, suspended) := before.habits.events.partition fun (name, _) =>
      before.has (if name = "ERR" then 'E' else 'T')
    modify fun s => { s with
      arguments, loops := 0, functionDepth := s.functionDepth + 1, optionPlace := (1, 0)
      habits := { s.habits with frames, events := kept } }
    let restore : Action Unit := modify fun s => { s with
      arguments := before.arguments
      loops := before.loops
      functionDepth := before.functionDepth
      optionPlace := before.optionPlace
      line := if s.dialect = .bash then before.line else s.line
      habits := { s.habits with
        frames := before.habits.frames
        events := s.habits.events ++
          suspended.filter fun (name, _) => (s.habits.events.lookup name).isNone } }
    let body : Action Unit := do
      tryCatch (run fuel tested false body) fun
        | .returned => pure ()
        | halt => throw halt
      event fuel "RETURN"
    tryCatch body fun halt => do
      restore
      throw halt
    restore

def runBuiltin : (fuel : Nat) → (tested : Bool) → (name : Octets) → List Octets → Action Unit
  | 0, _, _, _ => throw .spent
  | fuel + 1, tested, name, arguments => do
    match String.ofList name with
    | "eval" =>
      let ran ← runText fuel tested { content := [' '].intercalate arguments }
      unless ran do finish 0
    | "." => if let path :: _ := arguments then runFile fuel path
    | "exec" =>
      if arguments.isEmpty then finish 0
      else
        let s ← get
        match Program.find s.world.files s.here (some ((s.value? "PATH".toList).getD [])) arguments
          with
        | .error error =>
          if error = .badFormat then launch fuel true false arguments
          else
            let (text, status) := startFailure error
            fail (arguments.headD [] ++ Octets.say s!": {text}") status
        | .ok _ =>
          modify ({ · with traps := [] })
          launch fuel true false arguments
    | name =>
      match builtin? name arguments with
      | some act => act
      | none => finish 0

def runFile : (fuel : Nat) → (path : Octets) → Action Unit
  | 0, _ => throw .spent
  | fuel + 1, path => do
    let s ← get
    let isFile (path : Octets) : Bool := match s.kind path with
      | some (.file ..) => true
      | _ => false
    let found := if path.contains '/' then some path
      else ((Path.cutAt ':' ((s.value? "PATH".toList).getD [])).map
        (Program.inDirectory · path)).find? isFile
    match found with
    | none => fail (path ++ Octets.say ": not found")
    | some full =>
      match s.world.openPath s.here s.descriptors (pathOf full) .read with
      | .error error =>
        fail (Octets.say "cannot open " ++ full ++
          Octets.say s!": {Redirection.failure false error}")
      | .ok (id, world) =>
        let text := (world.unread id).toOption.getD []
        performing full do
          let ran ← tryCatch (runText fuel false { content := text }) fun
            | .returned => return true
            | halt => throw halt
          unless ran do finish 0

def launch : (fuel : Nat) → (last standard : Bool) → List Octets → Action Unit
  | 0, _, _, _ => throw .spent
  | fuel + 1, last, standard, arguments => do
    let s ← get
    let searchPath := if standard then standardPath else (s.value? "PATH".toList).getD []
    let replaces := last && s.traps.isEmpty
    let start (tool : Tool) (arguments : List Octets) : Action Unit := do
      let number ← if replaces then pure s.process else newProcess
      let s ← get
      let environment := match s.dialect with
        | .dash => s.exported
        | .bash => environmentLarger s replaces searchPath (arguments.headD [])
      let (ended, world) := execute fuel s.process
        ⟨s.here, environment, arguments, s.descriptors, number, s.mask, s.ignored⟩ tool
        (if replaces then s.world else s.holds)
      set { s with world := { world with holding := s.world.holding } }
      match ended with
      | none => throw .spent
      | some status => if replaces then throw (.replaced status) else reap (some status)
    match Program.find s.world.files s.here (some searchPath) arguments with
    | .ok (tool, arguments) => start tool arguments
    | .error .badFormat =>
      let path := if (arguments.headD []).contains '/' then arguments.headD []
        else (located? s searchPath (arguments.headD [])).getD []
      match s.dialect with
      | .dash => start (.shell .dash) ("/bin/sh".toList :: path :: arguments.tail)
      | .bash => start (.shell .bash) ("bash".toList :: path :: arguments.tail)
    | .error error =>
      let (text, status) := match s.dialect with
        | .dash => startFailure error
        | .bash => startFailureLarger s (arguments.headD []) error
      complain (arguments.headD [] ++ Octets.say s!": {text}")
      finish status

def runText : (fuel : Nat) → (tested : Bool) → Text → Action Bool
  | 0, _, _ => throw .spent
  | fuel + 1, tested, text => do
    let s ← get
    match s.dialect with
    | .dash => runLines fuel tested false (text.source s)
    | .bash => nested (runLinesLarger fuel tested false text (text.source s))

def runLines : (fuel : Nat) → (tested ran : Bool) → Source → Action Bool
  | 0, _, _, _ => throw .spent
  | fuel + 1, tested, ran, source => do
    match Script.next.run { source with aliases := (← get).aliases } with
    | .error error =>
      modify ({ · with line := error.line })
      fail (Octets.say error.message)
    | .ok (none, _) => return ran
    | .ok (some command, source) =>
      modify fun s => { s with
        documents := source.documents ++ s.documents
        unusedDocument := source.unused }
      unless (← get).has 'n' do run fuel tested false command
      runLines fuel tested true { source with documents := [] }

def runLinesLarger : (fuel : Nat) → (tested ran : Bool) → Text → Source → Action Bool
  | 0, _, _, _, _ => throw .spent
  | fuel + 1, tested, ran, text, source => do
    let s ← get
    let source := { source with
      aliases := if s.isOn "expand_aliases" then s.aliases else []
      hasGroups := s.isOn "extglob" }
    match Script.next.run source with
    | .error error =>
      refuseText text.label error
      return true
    | .ok (none, _) => return ran
    | .ok (some command, source) =>
      let passed := source.text.length - source.rest.length
      let isAfterEnd := (source.text.take passed).getLast? = some '\n'
      let last := text.isLast && isAtEnd (source.rest.length + 1) source.rest
      modify fun s => { s with
        documents := source.documents ++ s.documents
        unusedDocument := source.unused
        habits := { s.habits with readLine := if isAfterEnd then source.line - 1 else source.line } }
      for warning in source.warnings.reverse do
        modify ({ · with line := warning.1 })
        complain (Octets.say warning.2)
      unless (← get).has 'n' do discarding (run fuel tested last command)
      runLinesLarger fuel tested true text { source with documents := [], warnings := [] }

def startFrom : (fuel : Nat) → Process → World → Except SystemError Outcome
  | 0, _, w => .ok (none, w)
  | fuel + 1, p, w =>
    let searchPath := p.environment.lookup "PATH".toList
    match Program.find w.files p.here searchPath p.arguments with
    | .ok (tool, arguments) => .ok (execute fuel p.number { p with arguments } tool w)
    | .error .badFormat =>
      let arguments := Program.asScript w.files p.here searchPath p.arguments
      .ok (execute fuel p.number { p with arguments } (.shell .dash) w)
    | .error error => .error error

def carryOut : (fuel : Nat) → Process → Tools.Launcher.Plan → World → Outcome
  | 0, _, _, w => (none, w)
  | fuel + 1, p, plan, w =>
    let say (isError : Bool) (text : Octets) (status : Nat) : Outcome :=
      let (status, w) := Tools.perform p true (fun _ => do
        if isError then Tools.tell text else Tools.print text
        Tools.fails status) w
      (some status, w)
    match plan with
    | .show_ text => say false text 0
    | .refuse text status => say true text status
    | .start environment arguments =>
      match startFrom fuel { p with environment, arguments } w with
      | .ok outcome => outcome
      | .error error =>
        let name := p.arguments.headD []
        let program := arguments.headD []
        let text := match String.ofList name with
          | "timeout" | "nohup" | "stdbuf" =>
            Octets.say "failed to run command " ++ Tools.quoted program
          | "setsid" => Octets.say "failed to execute " ++ program
          | _ => Tools.quoted program
        let hint := if error = .notFound && name.reverse.takeWhile (· != '/') = "vne".toList &&
            program.any Octets.isSpace then
          name ++ Octets.say ": use -[v]S to pass options in shebang lines\n" else []
        say true (name ++ Octets.say ": " ++ text ++ Octets.say s!": {error.reason}\n" ++ hint)
          (if error = .notFound then 127 else 126)

def runBatches : (fuel : Nat) → Process → (status : Nat) → List (List Octets) → World → Outcome
  | 0, _, _, _, w => (none, w)
  | _, _, status, [], w => (some (.exited status), w)
  | fuel + 1, p, status, arguments :: rest, w =>
    match startFrom fuel { p with arguments } w with
    | .error error =>
      let text := p.arguments.headD [] ++ Octets.say ": " ++
        Tools.quotedIfWild (arguments.headD []) ++ Octets.say s!": {error.reason}\n"
      let status := if error = .notFound then 127 else 126
      let (status, w) := Tools.perform p true (fun _ => do
        Tools.tell text
        Tools.fails status) w
      (some status, w)
    | .ok (none, w) => (none, w)
    | .ok (some (.killed signal), w) =>
      let text := p.arguments.headD [] ++ Octets.say ": " ++ (arguments.headD []) ++
        Octets.say s!": terminated by signal {signal}\n"
      let (status, w) := Tools.perform p true (fun _ => do
        Tools.tell text
        Tools.fails 125) w
      (some status, w)
    | .ok (some (.exited code), w) =>
      if code = 255 then
        let text := p.arguments.headD [] ++ Octets.say ": " ++ (arguments.headD []) ++
          Octets.say ": exited with status 255; aborting\n"
        let (status, w) := Tools.perform p true (fun _ => do
          Tools.tell text
          Tools.fails 124) w
        (some status, w)
      else runBatches fuel p (if code = 0 then status else 123) rest w

def execute : (fuel parent : Nat) → Process → Tool → World → Outcome
  | 0, _, _, _, w => (none, w)
  | fuel + 1, parent, p, tool, w =>
    let w := (w.masked p.mask).timed
    let call : Call := {
      files := w.files, here := p.here, arguments := p.arguments, environment := p.environment
      input := fun _ => .ok [] }
    match tool with
    | .shell dialect =>
      match Invocation.ofArguments dialect p.arguments with
      | .error text =>
        let (status, w) := Tools.perform p true (fun c => do
          Tools.tell (match dialect with
            | .dash => c.name ++ Octets.say ": 0: " ++ text ++ ['\n']
            | .bash => c.name ++ Octets.say ": " ++ text ++ ['\n'])
          Tools.fails 2) w
        (some status, w)
      | .ok asked =>
        let body : Action Unit := do
          tellIfLost (p.arguments.headD [])
          let s ← get
          match asked.origin with
          | .text text => do
            let _ ← runText fuel false
              { content := text, label := some "-c".toList, isLast := true }
          | .input =>
            let world := s.world.awaitAll s.held (s.descriptors.lookup 0)
            set { s with world }
            if world.stopped.isSome then throw .spent
            let text := match s.descriptors.lookup 0 with
              | some id => (world.unread id).toOption.getD []
              | none => []
            if let some id := s.descriptors.lookup 0 then
              set { s with world := world.pass id text.length }
            let _ ← runText fuel false { content := text }
          | .file path =>
            match s.world.openPath s.here s.descriptors (pathOf path) .read with
            | .error error =>
              if ← isLarger then
                let _ ← emit 2 (p.arguments.headD [] ++ Octets.say ": " ++ path ++
                  Octets.say s!": {error.reason}\n")
                finish (if error = .notFound then 127 else 126)
                throw .exited
              let text := Redirection.failure false error
              modify ({ · with line := 0, name := p.arguments.headD [] })
              fail (Octets.say "cannot open " ++ path ++ Octets.say s!": {text}")
            | .ok (id, world) =>
              match world.unread id with
              | .error error =>
                if ← isLarger then
                  let _ ← emit 2 (path ++ Octets.say ": " ++ path ++
                    Octets.say s!": {error.reason}\n")
                  finish 126
                  throw .exited
              | .ok _ => pure ()
              let _ ← runText fuel false { content := (world.unread id).toOption.getD [] }
        let start := match dialect with
          | .dash => State.start p asked parent w
          | .bash => State.startLarger p asked parent w
        let (ended, s) := (conclude (atExit fuel) body).run.run start
        match ended with
        | .ok ended => (ended, s.world)
        | .error _ => (none, s.world)
    | .env => carryOut fuel p (Tools.Launcher.env call) w
    | .nohup => carryOut fuel p (Tools.Launcher.plain call "" "" 125) w
    | .setsid => carryOut fuel p (Tools.Launcher.plain call "cfw" "" 1) w
    | .stdbuf => carryOut fuel p (Tools.Launcher.plain call "" "ioe" 125) w
    | .nice => carryOut fuel p (Tools.Launcher.plain call "" "n" 125) w
    | .timeout =>
      let (plan, limit) := Tools.Launcher.timeout call
      let goal := w.clock + limit.duration
      let isOwn := limit.duration != 0 && w.deadline.all (goal < ·)
      let (status, after) := carryOut fuel p plan
        { w with deadline := if isOwn then some goal else w.deadline }
      let late := isOwn && after.stopped matches some .expired
      let after := { after with
        deadline := w.deadline
        stopped := if late then none else after.stopped }
      if late || (isOwn && status.isNone && after.stopped.isNone) then
        (some limit.status, after)
      else (status, after)
    | .xargs =>
      let w := w.awaitAll (p.descriptors.map (·.2)) (p.descriptors.lookup 0)
      let input := (p.descriptors.lookup 0).bind fun id => (w.unread id).toOption
      let text := input.getD []
      let w := match p.descriptors.lookup 0 with
        | some id => w.pass id text.length
        | none => w
      match Tools.Launcher.xargs call text with
      | .error plan => carryOut fuel p plan w
      | .ok batches =>
        let (id, w) := w.add { target := .device .null, reads := true, writes := false }
        let descriptors := (0, id) :: p.descriptors.filter (·.1 != 0)
        runBatches fuel { p with descriptors } 0 batches.commands w
    | .awk =>
      let w := p.arguments.tail.foldl (fun w text =>
        w.awaitPath p.here (p.descriptors.map (·.2)) (pathOf text)) w
      if w.stopped.isSome then (none, w)
      else Awk.run (fun process w => execute fuel p.number process (.shell .dash) w) fuel p w
    | .find => Find.find (startFrom fuel) p w
    | .worker =>
      let (status, w) := Tools.perform p false (Tools.worker (Tools.writerOf p w)) w
      (some status, w)
    | .node => (some (.exited 0), w)
    | .plain name =>
      let w := p.arguments.tail.foldl (fun w text =>
        w.awaitPath p.here (p.descriptors.map (·.2)) (pathOf text)) w
      let (status, w) := Tools.perform p true (Tools.program name) w
      (if w.stopped.isSome then none else some status, w)
end

def stepLimit : Nat := 500000

end SvelteTransform.Sandbox.Shell
