import SvelteTransform.Sandbox.Shell.Redirection

/-! How commands end: for good, for a loop, or for a shell of their own. -/
namespace SvelteTransform.Sandbox.Shell

def halted (body : Action Unit) : Action (Option Halt) :=
  tryCatch (do body; return none) fun halt => return some halt

def conclude (atExit body : Action Unit) : Action (Option Worker.ExitStatus) := do
  let outright : Halt → Option (Option Worker.ExitStatus)
    | .spent => some none
    | .killed signal => some (some (.killed signal))
    | .replaced status => some (some status)
    | _ => none
  match (← halted body).bind outright with
  | some outcome => return outcome
  | none =>
    let status := (← get).status
    let halt ← halted atExit
    match halt.bind outright with
    | some outcome => return outcome
    | none =>
      let now := (← get).status
      return some (.exited ((if halt.isSome then now else status) % 256))

def succumb : Action Unit := do
  let s ← get
  for (process, signal) in s.world.signals do
    if process = s.process && Signal.ends signal &&
        (signal = 9 || (s.traps.lookup signal).isNone) then
      throw (.killed signal)

def concludeAs (number : Nat) (atExit body : Action Unit) :
    Action (Option Worker.ExitStatus) := do
  modify fun s => { s with
    process := number
    traps := s.traps.filter (·.2 = [])
    jobs := []
    saved := []
    loops := 0
    habits := { s.habits with
      depth := s.habits.depth + 1
      shells := s.habits.shells + 1
      events := s.habits.events.filter fun (name, _) => s.has (if name = "ERR" then 'E' else 'T') } }
  conclude atExit body

def forked (atExit body : Action Unit) : Action (Option Worker.ExitStatus) := do
  let before ← get
  let number ← newProcess
  modify fun s => { s with world := s.holds }
  let ended ← concludeAs number atExit body
  modify fun after => { before with
    world := { after.world with holding := before.world.holding } }
  if (← get).world.stopped.isSome then throw .spent
  succumb
  return ended

def reap : Option Worker.ExitStatus → Action Unit
  | none => throw .spent
  | some status => do
    learnEnds
    finish (statusOf status)
    if let .killed signal := status then mourn signal

def isolated (atExit body : Action Unit) : Action Unit := do
  reap (← forked atExit body)

def captured (atExit body : Action Unit) : Action Octets := do
  let s ← get
  let (sink, id, world) := s.world.addSink
  set { s with world }
  let before := s.descriptors.lookup 1
  Redirection.point 1 (some id)
  let ended ← forked atExit body
  Redirection.point 1 before
  modify fun s => { s with world := s.world.drain sink }
  let text := (← get).world.collected sink
  modify fun s => { s with world := s.world.dropSink sink id }
  reap ended
  modify fun now => { now with scriptStatus := some now.status, status := s.status }
  return text

def alongside (start own : State) (number : Nat) (atExit body : Action Unit)
    (scenes : List Scene) (again : Bool) : Except Halt (Option Worker.ExitStatus) × State :=
  let world := { start.world with ahead := some (scenes, again), beside := [], holding := [] }
  (concludeAs number atExit body).run.run { own with world, saved := [] }

def Stretch.of : Except Halt (Option Worker.ExitStatus) × State → Stretch
  | (ended, after) =>
    match after.world.stopped, ended with
    | some (.asleep pause), _ => .sleeps pause
    | some .expired, _ => .ends after.world.toScene (some (.killed 15))
    | none, .ok status => .ends after.world.toScene status
    | none, .error _ => .ends after.world.toScene none

def streamPatience : Nat := 1048576

def printing (atExit body : Action Unit) (id : Nat) :
    Action (Nat ⊕ Option Worker.ExitStatus) := do
  let output := (← get).descriptors.lookup 1
  Redirection.point 1 (some id)
  let start ← get
  if start.world.ahead.isNone && start.world.beside.isEmpty then
    let number ← newProcess
    let start ← get
    let (ended, after) := alongside start start number atExit body [] true
    let longer : State := { start with world := start.world.withPatience streamPatience }
    let later := alongside longer longer number atExit body
    match after.world.stopped with
    | some (.asleep pause) =>
      let process : Background := {
        number
        run := fun scenes again => Stretch.of (later scenes again)
        phase := .asleep pause.wakes pause.sinks }
      let world := start.world
      set { start with
        world := { world with
          toScene := { pause.scene with clock := world.clock }
          beside := world.beside ++ [process] } }
      Redirection.point 1 output
      return .inl number
    | _ =>
      let world := start.world
      set { start with
        world := { after.world with ahead := none, beside := [], holding := world.holding } }
      Redirection.point 1 output
      if after.world.stopped.isSome then throw .spent
      succumb
      return .inr (match ended with
        | .ok ended => ended
        | .error _ => none)
  else
    let ended ← forked atExit body
    Redirection.point 1 output
    return .inr ended

def awaitPrinter (number : Nat) : (fuel : Nat) → Action (Option Worker.ExitStatus)
  | 0 => return none
  | fuel + 1 => do
    let s ← get
    if s.world.stopped.isSome then throw .spent
    let phase : Option Phase := (s.world.background? number).map (·.phase)
    match phase with
    | some (.asleep wakes _) =>
      set { s with world := s.world.sleepUntil s.held (max wakes (s.world.clock + 1)) }
      awaitPrinter number fuel
    | some (.ended _ status) =>
      return some (if 128 < status then .killed (status - 128) else .exited status)
    | _ => return some (.killed 13)

def flow (atExit heard : Action Unit) (patience : Nat) (isOwn : Bool) :
    List (Action Unit) → Action (List (Option Worker.ExitStatus) × Bool)
  | [] => return ([], false)
  | [last] => do
    let ended ← if isOwn then do
        last
        pure (some (.exited (← get).status))
      else forked atExit last
    heard
    return ([ended], false)
  | first :: rest => do
    let s ← get
    let (sink, id, world) := (s.world.withPatience patience).addSink
    set { s with world }
    let input := s.descriptors.lookup 0
    let asBefore : Action Unit := modify fun now => { now with
      world := { now.world with patience := s.world.patience, ceiling := s.world.ceiling } }
    match ← printing atExit first id with
    | .inl number =>
      asBefore
      let (source, world) := (← get).world.add
        { target := .stream sink, reads := true, writes := false }
      modify ({ · with world })
      Redirection.point 0 (some source)
      let close : Action Unit := do
        Redirection.point 0 input
        modify fun s => { s with world := s.world.close sink }
      let (others, missed) ← flow atExit close patience isOwn rest
      let ended ← awaitPrinter number ((← get).world.wakings + 1)
      if let some (.killed signal) := ended then mourn signal
      heard
      modify fun s =>
        let world := s.world
        { s with world := { world with
            beside := world.beside.filter (·.number != number)
            opened := world.opened.filter (·.1 != source) } }
      return (ended :: others, missed)
    | .inr ended =>
      heard
      if let some (.killed signal) := ended then mourn signal
      let world := (← get).world.drain sink
      let cut := ended.isNone || world.cut
      let text := world.collected sink
      let short := cut && (text.drop (patience / 2)).isEmpty
      let text := if ended.isNone then text ++ List.replicate patience '\n' else text
      let (source, world) := (world.dropSink sink id).add
        { target := .source text, reads := true, writes := false }
      modify ({ · with world := { world with cut := s.world.cut } })
      asBefore
      Redirection.point 0 (some source)
      let (others, missedLater) ← flow atExit (Redirection.point 0 input) patience isOwn rest
      let world := (← get).world
      let missed := missedLater ||
        cut && (short || ((world.opened.lookup source).any (·.drained)))
      modify fun s => { s with
        world := { s.world with
          opened := s.world.opened.filter (·.1 != source), cut := s.world.cut || missed } }
      return (ended :: others, missed)

def piped (atExit : Action Unit) (isOwn : Bool) (parts : List (Action Unit)) : Action Unit := do
  let before ← get
  let conclude (ended : List (Option Worker.ExitStatus)) : Action Unit := do
    reap (ended.getLast?.getD none)
    modify ({ · with stages := ended.map fun status => (status.map statusOf).getD 0 })
  for patience in [65536, 1048576] do
    if patience < before.world.patience then
      let (ended, missed) ← flow atExit (pure ()) patience isOwn parts
      if !missed then
        conclude ended
        return
      set before
  let (ended, _) ← flow atExit (pure ()) before.world.patience isOwn parts
  conclude ended

def beside (text : Octets) (atExit body : Action Unit) : Action Unit := do
  let s ← get
  let (id, world) := s.world.add { target := .device .null, reads := true, writes := false }
  set { s with world }
  let number ← newProcess
  let start ← get
  let own : State :=
    { start with descriptors := (0, id) :: start.descriptors.filter (·.1 != 0) }
  let go (scenes : List Scene) (again : Bool) : Stretch :=
    Stretch.of (alongside start own number atExit body scenes again)
  let stretch := go [] start.world.ahead.isNone
  let process : Background := { number, run := go, phase := stretch.phase }
  let world := start.world
  set { start with
    world := { world with
      toScene := { stretch.scene with clock := world.clock }
      beside := world.beside ++ [process] }
    jobs := { slot := start.unusedSlot, process := number, text } :: start.jobs
    lastJob := some number
    status := 0 }
  succumb

def loopBody (body : Action Unit) : Action Bool :=
  tryCatch (do body; return true) fun
    | .left levels again => if levels ≤ 1 then return again else throw (.left (levels - 1) again)
    | halt => throw halt

def inLoop {α : Type} (body : Action α) : Action α := do
  modify fun s => { s with loops := s.loops + 1 }
  let restore : Action Unit := modify fun s => { s with loops := s.loops - 1 }
  let a ← tryCatch body fun halt => do
    restore
    throw halt
  restore
  return a

def insist (tested : Bool) : Action Unit := do
  let s ← get
  if s.has 'e' && !tested && s.status != 0 then throw .exited

def notice (perform : Octets → Action Unit) : Action Unit := do
  let s ← get
  let (mine, others) := s.world.signals.partition (·.1 = s.process)
  if mine.isEmpty then return
  set { s with world := { s.world with signals := others } }
  for (_, signal) in mine do
    match s.traps.lookup signal with
    | some text =>
      if signal = 9 then throw (.killed signal)
      if text != [] then
        perform text
        finish s.status
    | none => if Signal.ends signal then throw (.killed signal)

end SvelteTransform.Sandbox.Shell
