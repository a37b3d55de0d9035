import SvelteTransform.Sandbox.Awk.Machine

/-! Running a program. Every step costs fuel; a program that has used up its fuel is taken to go on
for ever. -/
namespace SvelteTransform.Sandbox.Awk

def replacement : (fuel : Nat) → Octets → List (Option Char)
  | fuel + 1, '\\' :: '\\' :: '&' :: rest => some '\\' :: none :: replacement fuel rest
  | fuel + 1, '\\' :: '&' :: rest => some '&' :: replacement fuel rest
  | fuel + 1, '&' :: rest => none :: replacement fuel rest
  | fuel + 1, c :: rest => some c :: replacement fuel rest
  | _, _ => []

def filled (parts : List (Option Char)) (text : Octets) : Octets :=
  parts.flatMap fun part => match part with
    | some c => [c]
    | none => text

def substituted (r : Regex) (parts : List (Option Char)) (everywhere : Bool) :
    (fuel : Nat) → (afterMatch : Bool) → (count : Nat) → (reversed : Octets) → Regex.Place →
    Nat × Octets
  | 0, _, count, reversed, p => (count, reversed.reverse ++ p.rest)
  | fuel + 1, afterMatch, count, reversed, p =>
    let goOn (p : Regex.Place) (reversed : Octets) : Nat × Octets := match p.rest with
      | [] => (count, reversed.reverse)
      | c :: rest => substituted r parts everywhere fuel false count (c :: reversed) (p.step c rest)
    match r.matchAt false false p with
    | none => goOn p reversed
    | some m =>
      if m.text = [] && afterMatch then goOn p reversed
      else
        let reversed := (filled parts m.text).reverseAux reversed
        if !everywhere then (count + 1, reversed.reverse ++ p.rest.drop m.text.length)
        else if m.text = [] then
          match p.rest with
          | [] => (count + 1, reversed.reverse)
          | c :: rest =>
            substituted r parts everywhere fuel false (count + 1) (c :: reversed) (p.step c rest)
        else
          substituted r parts everywhere fuel true (count + 1) reversed
            { p with
              passed := p.passed + m.text.length
              previous := m.text.getLast?
              rest := p.rest.drop m.text.length }

def substitute (r : Regex) (new text : Octets) (everywhere : Bool) : Nat × Octets :=
  substituted r (replacement (new.length + 1) new) everywhere (2 * text.length + 2) false 0 []
    ⟨0, none, text, []⟩

def part (text : Octets) (start : Float) (length : Option Float) : Octets :=
  let limit : Float := 1e9
  let clamp (x : Float) : Int := if x.isNaN then 0 else whole (max (-limit) (min limit x))
  let first := clamp start
  let rest := text.drop (first.toNat - 1)
  match length with
  | none => rest
  | some x =>
    let length := clamp x
    rest.take (if 0 < first then length else length - first).toNat

def position (sought : Octets) : Nat → Octets → Nat
  | _, [] => 0
  | n, c :: rest => if sought.isPrefixOf (c :: rest) then n else position sought (n + 1) rest

def nextRandom (n : Nat) : Nat := (n * 6364136223846793005 + 1442695040888963407) % UInt64.size

section
variable (launch : Launch)

def say (text : Octets) : Action Unit := do
  let m ← get
  let isMeant (o : Outlet) : Bool := o.name = "/dev/stdout".toList && o.file.isSome
  let put (o : Outlet) : Outlet :=
    if isMeant o then { o with pending := text :: o.pending } else o
  if m.outlets.any isMeant then set { m with outlets := m.outlets.map put }
  else
    fail (Octets.say "close failed on file \"/dev/stdout\" (Bad file descriptor)")

def found (r : Regex) (text : Octets) : Bool := (r.find false text).isSome

def fieldNumber (v : Value) : Action Nat := do
  let n := whole v.toNumber
  if n < 0 then
    runtimeError (Octets.say "negative field index $" ++ Octets.ofInt n)
  return n.toNat

def received (target : Option Place) (record : Except Int Octets) : Action Value := do
  match record with
  | .error n => return .number (Float.ofInt n)
  | .ok text =>
    match target with
    | none => setRecord (.ofInput text)
    | some place => store (.ofInput text) place
    return .number 1

def mathematics : Builtin → Option (Float → Float)
  | .sin => some Float.sin
  | .cos => some Float.cos
  | .exp => some Float.exp
  | .log => some Float.log
  | .sqrt => some Float.sqrt
  | .int => some fun x => if x.isFinite then Float.ofInt (whole x) else x
  | _ => none

def composed (name : String) (given : List Value) (put : Octets → Action Unit) : Action Octets := do
  let convfmt ← convfmt
  let format := (given.headD .unset).toText convfmt
  let complain (text : String) : Action Octets :=
    runtimeError (Octets.say s!"{text} {name}(\"" ++ format ++ Octets.say "\")")
  let (text, flaw) := Awk.format convfmt format given.tail
  match flaw with
  | none => return text
  | some flaw =>
    put text
    match flaw with
    | .tooFew => complain "not enough arguments passed to"
    | .improper n => complain s!"improper conversion(number {n}) in"

def simpleBuiltin (function : Builtin) (given : List Value) : Action Value := do
  let format ← convfmt
  let text (n : Nat) : Octets := (given[n]?.getD .unset).toText format
  let number (n : Nat) : Float := (given[n]?.getD .unset).toNumber
  match function with
  | .length =>
    match given with
    | [] => return .ofNat ((← get).record.text.toText format).length
    | v :: _ => return .ofNat (v.toText format).length
  | .substr => return .text (part (text 0) (number 1) (given[2]?.map Value.toNumber))
  | .index => return .ofNat (position (text 1) 1 (text 0))
  | .sprintf => return .text (← composed "sprintf" given fun _ => pure ())
  | .atan2 => return .number (Float.atan2 (number 0) (number 1))
  | .rand =>
    let n := nextRandom (← get).random
    modify ({ · with random := n })
    return .number (Float.ofNat (n / Nat.pow 2 11) / Float.ofNat (Nat.pow 2 53))
  | .srand =>
    let before := (← get).seed
    let seed := given.headD (.number 0)
    modify ({ · with seed, random := nextRandom (whole seed.toNumber).natAbs })
    return before
  | .toLower => return .text ((text 0).map Char.toLower)
  | .toUpper => return .text ((text 0).map Char.toUpper)
  | .system =>
    flushFiles
    let status ← shell launch (text 0) (← get).process.descriptors
    return .ofNat (statusOf status)
  | .close => return .number (Float.ofInt (← close launch (text 0)))
  | .flush =>
    match given with
    | [] =>
      flushFile "/dev/stdout".toList
      return .number 0
    | _ =>
      if text 0 = [] then
        flushFiles
        return .number 0
      else if (← get).outlets.any (·.name = text 0) then
        flushFile (text 0)
        return .number 0
      else return .number (-1)
  | function =>
    match mathematics function with
    | some f => return .number (f (number 0))
    | none => return .unset

mutual
def eval : (fuel : Nat) → Expr → Action Value
  | 0, _ => throw .spent
  | _, .number x => return .number x
  | _, .text t => return .text t
  | _, .regex r => do return .ofBool (found r (← toText (← get).record.text))
  | fuel + 1, .grouped inside => eval fuel inside
  | _, .scalar name => load (.scalar name)
  | fuel + 1, .element array subscripts => do load (← locate fuel (.element array subscripts))
  | fuel + 1, .field number => do load (← locate fuel (.field number))
  | fuel + 1, .assign target value => do
    let place ← locate fuel target
    let v ← eval fuel value
    store v place
    return v
  | fuel + 1, .update target how value => do
    let place ← locate fuel target
    let y := (← eval fuel value).toNumber
    let v := Value.number (Value.calculate how (← load place).toNumber y)
    store v place
    return v
  | fuel + 1, .step target up first => do
    let place ← locate fuel target
    let x := (← load place).toNumber
    let y := if up then x + 1 else x - 1
    store (.number y) place
    return .number (if first then y else x)
  | fuel + 1, .choice condition yes no => do
    if (← eval fuel condition).isTrue then eval fuel yes else eval fuel no
  | fuel + 1, .either first second => do
    if (← eval fuel first).isTrue then return .ofBool true
    else return .ofBool (← eval fuel second).isTrue
  | fuel + 1, .both first second => do
    if (← eval fuel first).isTrue then return .ofBool (← eval fuel second).isTrue
    else return .ofBool false
  | fuel + 1, .not_ inside => do return .ofBool (!(← eval fuel inside).isTrue)
  | fuel + 1, .holds array subscripts => do
    let key ← keyOf fuel subscripts
    let id ← tableOf array
    let (found, t) := (← table id).find key
    setTable id t
    return .ofBool found.isSome
  | fuel + 1, .matches_ text pattern => do
    let text ← toText (← eval fuel text)
    let r ← sought fuel pattern
    return .ofBool (found r text)
  | fuel + 1, .compare how left right => do
    let a ← eval fuel left
    let b ← eval fuel right
    return .ofBool (Value.compare (← convfmt) how a b)
  | fuel + 1, .join left right => do
    let a ← toText (← eval fuel left)
    let b ← toText (← eval fuel right)
    return .text (a ++ b)
  | fuel + 1, .arithmetic how left right => do
    let x := (← eval fuel left).toNumber
    let y := (← eval fuel right).toNumber
    return .number (Value.calculate how x y)
  | fuel + 1, .negative inside => do return .number (-(← eval fuel inside).toNumber)
  | fuel + 1, .positive inside => do return .number (← eval fuel inside).toNumber
  | fuel + 1, .call name given => call fuel name given
  | fuel + 1, .builtin function given => builtin fuel function given
  | fuel + 1, .read target => do
    let place ← target.mapM (locate fuel)
    match ← nextInput with
    | some record => received place (.ok record)
    | none => return .number 0
  | fuel + 1, .readFile target file => do
    let place ← target.mapM (locate fuel)
    let name ← toText (← eval fuel file)
    received place (← readInlet launch false name)
  | fuel + 1, .readCommand target command => do
    let name ← toText (← eval fuel command)
    let place ← target.mapM (locate fuel)
    received place (← readInlet launch true name)

def evalAll : (fuel : Nat) → List Expr → Action (List Value)
  | 0, _ => throw .spent
  | _, [] => return []
  | fuel + 1, e :: rest => do
    let v ← eval fuel e
    return v :: (← evalAll fuel rest)

def keyOf : (fuel : Nat) → List Expr → Action Key
  | 0, _ => throw .spent
  | fuel + 1, [e] => do return (← eval fuel e).key (← convfmt)
  | fuel + 1, subscripts => do
    let texts ← (← evalAll fuel subscripts).mapM fun v => toText v
    return .text ((← textOf "SUBSEP").intercalate texts)

def locate : (fuel : Nat) → Expr → Action Place
  | 0, _ => throw .spent
  | _, .scalar name => return .scalar name
  | fuel + 1, .element array subscripts => do
    let key ← keyOf fuel subscripts
    return .cell (← tableOf array) key
  | fuel + 1, .field number => do return .field (← fieldNumber (← eval fuel number))
  | fuel + 1, .grouped inside => locate fuel inside
  | _, _ => return .field 0

def sought : (fuel : Nat) → Expr → Action Regex
  | 0, _ => throw .spent
  | fuel + 1, e => do
    match e.regex? with
    | some r => return r
    | none =>
      let text ← toText (← eval fuel e)
      understood text (Search.read text)

def builtin : (fuel : Nat) → Builtin → List Expr → Action Value
  | 0, _, _ => throw .spent
  | fuel + 1, .length, [.scalar name] => do
    match (← get).tableOf? name with
    | some id => return .ofNat (← table id).size
    | none => simpleBuiltin launch .length [← eval fuel (.scalar name)]
  | fuel + 1, .split, text :: .scalar array :: more => do
    let text ← toText (← eval fuel text)
    let separator ← match more.head? with
      | none => do separator (← textOf "FS")
      | some e =>
        match e.regex? with
        | some r => pure (match r with
            | .empty => Separator.nothing
            | r => .matching r)
        | none => do separator (← toText (← eval fuel e))
    let parts := separator.split text
    setTable (← tableOf array) (.ofList (parts.map Value.ofInput))
    return .ofNat parts.length
  | fuel + 1, .match_, [text, pattern] => do
    let text ← toText (← eval fuel text)
    let r ← sought fuel pattern
    let (start, length) : Float × Float := match r.find false text with
      | some m => (Float.ofNat (m.start + 1), Float.ofNat m.text.length)
      | none => (0, -1)
    setVariable "RSTART".toList (.number start)
    setVariable "RLENGTH".toList (.number length)
    return .number start
  | fuel + 1, .sub, pattern :: new :: target => replace fuel false pattern new target
  | fuel + 1, .gsub, pattern :: new :: target => replace fuel true pattern new target
  | fuel + 1, function, given => do simpleBuiltin launch function (← evalAll fuel given)

def replace : (fuel : Nat) → (everywhere : Bool) → (pattern new : Expr) → List Expr → Action Value
  | 0, _, _, _, _ => throw .spent
  | fuel + 1, everywhere, pattern, new, target => do
    let r ← sought fuel pattern
    let new ← toText (← eval fuel new)
    let place ← match target.head? with
      | some e => locate fuel e
      | none => pure (.field 0)
    let text ← toText (← load place)
    let (count, text) := substitute r new text everywhere
    if count != 0 then store (.text text) place
    return .ofNat count

def bindings : (fuel : Nat) → List (Octets × Bool) → List Expr → Action (List (Octets × Slot))
  | 0, _, _ => throw .spent
  | _, [], _ => return []
  | fuel + 1, (name, isArray) :: parameters, given => do
    let slot ← if isArray then
        match given.head?.bind Expr.name? with
        | some array => do
          match (← get).tableOf? array with
          | some id => pure (Slot.table id)
          | none => do pure (Slot.table (← newTable))
        | none => do pure (Slot.table (← newTable))
      else match given.head? with
        | some e => do pure (Slot.value (← eval fuel e))
        | none => pure (Slot.value .unset)
    return (name, slot) :: (← bindings fuel parameters given.tail)

def call : (fuel : Nat) → (name : Octets) → List Expr → Action Value
  | 0, _, _ => throw .spent
  | fuel + 1, name, given => do
    match (← get).program.functions.find? (·.name = name) with
    | none => return .unset
    | some f =>
      let before := (← get).frame
      let mark := (← get).unusedTable
      let frame ← bindings fuel f.parameters given
      modify ({ · with frame })
      let v ← tryCatch (do
        exec fuel f.body
        return .unset) fun halt => match halt with
          | .giveBack v => return v
          | halt => throw halt
      modify fun m => { m with
        frame := before, unusedTable := mark, tables := m.tables.filter (·.1 < mark) }
      return v

def exec : (fuel : Nat) → Statement → Action Unit
  | 0, _ => throw .spent
  | _, .nothing => return
  | fuel + 1, .expression e => do
    let _ ← eval fuel e
  | fuel + 1, .print items goal => do
    let ofmt ← textOf "OFMT"
    let values ← if items.isEmpty then pure [(← get).record.text] else evalAll fuel items
    let texts := values.map (·.toText ofmt)
    let text := (← textOf "OFS").intercalate texts ++ (← textOf "ORS")
    put fuel goal text
  | fuel + 1, .printf items goal => do
    let text ← composed "printf" (← evalAll fuel items) (put fuel goal)
    put fuel goal text
  | fuel + 1, .branch condition yes no => do
    if (← eval fuel condition).isTrue then exec fuel yes else exec fuel no
  | fuel + 1, .loop condition body step => do
    if (← get).world.stopped.isSome then throw .spent
    if (← eval fuel condition).isTrue then
      if ← once fuel body then
        exec fuel step
        exec fuel (.loop condition body step)
  | fuel + 1, .loopAfter body condition => do
    if ← once fuel body then
      if (← eval fuel condition).isTrue then exec fuel (.loopAfter body condition)
  | fuel + 1, .forEach name array body => do
    let id ← tableOf array
    let (keys, t) := (← table id).keys
    setTable id t
    for key in keys do
      store (.text key) (.scalar name)
      unless ← once fuel body do break
  | fuel + 1, .sequence first second => do
    exec fuel first
    exec fuel second
  | _, .next => throw .next
  | _, .nextFile => throw .nextFile
  | fuel + 1, .exit status => do
    if let some e := status then
      let n := whole (← eval fuel e).toNumber
      modify ({ · with status := (n % 256).toNat })
    throw .exit
  | fuel + 1, .giveBack value => do
    let v ← match value with
      | some e => eval fuel e
      | none => pure .unset
    throw (.giveBack v)
  | _, .leave => throw .leave
  | _, .again => throw .again
  | fuel + 1, .delete array subscripts => do
    let key ← keyOf fuel subscripts
    let id ← tableOf array
    setTable id ((← table id).erase key)
  | _, .clear array => do setTable (← tableOf array) {}

def once : (fuel : Nat) → Statement → Action Bool
  | 0, _ => throw .spent
  | fuel + 1, body =>
    tryCatch (do
      exec fuel body
      return true) fun halt => match halt with
        | .leave => return false
        | .again => return true
        | halt => throw halt

def put : (fuel : Nat) → Option Goal → Octets → Action Unit
  | 0, _, _ => throw .spent
  | _, none, text => say text
  | fuel + 1, some (.file name appends), text => do
    write false (← toText (← eval fuel name)) appends text
  | fuel + 1, some (.command command), text => do
    write true (← toText (← eval fuel command)) false text
end

def selects (fuel : Nat) : Pattern → Action Bool
  | .always => return true
  | .holds condition => return (← eval launch fuel condition).isTrue
  | .between number first last => do
    let open_ : Bool := (← get).begun.contains number
    let begins ← if open_ then pure true else do pure (← eval launch fuel first).isTrue
    if !begins then return false
    let ends := (← eval launch fuel last).isTrue
    let others := (← get).begun.filter (· != number)
    modify ({ · with begun := if ends then others else number :: others })
    return true

def apply (fuel : Nat) (rules : List Rule) : Action Unit := do
  for rule in rules do
    if ← selects launch fuel rule.pattern then
      exec launch fuel (rule.action.getD (.print [] none))

def records (rules : List Rule) : (fuel : Nat) → Action Unit
  | 0 => throw .spent
  | fuel + 1 => do
    match ← nextInput with
    | none => return
    | some record =>
      setRecord (.ofInput record)
      tryCatch (apply launch fuel rules) fun halt => match halt with
        | .next => return
        | .nextFile => leaveFile
        | halt => throw halt
      records rules fuel

def wholeProgram (fuel : Nat) (p : Program) : Action Unit := do
  let exits (body : Action Unit) : Action Bool :=
    tryCatch (do
      body
      return false) fun halt => match halt with
        | .exit => return true
        | halt => throw halt
  let _ ← exits do
    for body in p.beginning do exec launch fuel body
    unless p.rules.isEmpty && p.ending.isEmpty do records launch p.rules fuel
  let _ ← exits do
    for body in p.ending do exec launch fuel body
end

end SvelteTransform.Sandbox.Awk
