import SvelteTransform.Sandbox.World

/-! How time passes: whoever sleeps lets the processes beside it go on until then. -/
namespace SvelteTransform.Sandbox

def statusOf : Worker.ExitStatus → Nat
  | .exited code => code
  | .killed signal => 128 + signal

def Stretch.scene : Stretch → Scene
  | .sleeps pause => pause.scene
  | .ends scene _ => scene

def Stretch.phase : Stretch → Phase
  | .sleeps pause => .asleep pause.wakes pause.sinks
  | .ends scene (some status) => .ended scene.clock (statusOf status)
  | .ends _ none => .endless

namespace World

def replaceBackground (w : World) (b : Background) : World :=
  { w with beside := w.beside.map fun old => if old.number = b.number then b else old }

def background? (w : World) (number : Nat) : Option Background :=
  w.beside.find? (·.number = number)

def hasEnded (w : World) (number : Nat) : Bool :=
  match w.background? number with
  | some { phase := .ended time _, .. } => time ≤ w.clock
  | _ => false

def wakeLimit : Nat := 100

def wake (w : World) (b : Background) (wakes : Nat) : World :=
  let w := { w with clock := max w.clock wakes }
  let woken := b.woken ++ [{ w.toScene with clock := wakes }]
  let stretch := b.run woken (woken.length < wakeLimit)
  let w := { w with toScene := { stretch.scene with clock := w.clock } }.heed 0
  w.replaceBackground { b with woken, phase := stretch.phase }

def next? (w : World) (isMeant : List Nat → Bool) : Option (Background × Nat) :=
  w.beside.foldl (fun best b => match b.phase with
    | .asleep wakes sinks =>
      let isSooner := best.all fun (_, first) => wakes < first
      if isMeant sinks && isSooner then some (b, wakes) else best
    | _ => best) none

def isAnyAsleep (w : World) : Bool := (w.next? fun _ => true).isSome

def wakings (w : World) : Nat := (wakeLimit + 1) * w.beside.length

def elapseFrom (goal : Nat) : (fuel : Nat) → World → World
  | 0, w => w
  | fuel + 1, w =>
    match w.next? fun _ => true with
    | some (b, wakes) => if wakes ≤ goal then elapseFrom goal fuel (w.wake b wakes) else w
    | none => w

def elapse (w : World) (goal : Nat) : World :=
  let w := elapseFrom goal w.wakings (w.heed 0)
  { w with clock := max w.clock goal }

def sinksOf (w : World) (ids : List Nat) : List Nat :=
  ids.filterMap fun id => match w.opened.lookup id with
    | some { target := .sink number, .. } => some number
    | _ => none

def sleepUntil (w : World) (ids : List Nat) (goal : Nat) : World :=
  let ids := ids ++ w.holding
  if goal ≤ w.clock then w
  else match w.deadline.filter (· < goal), w.ahead with
    | some deadline, _ => { w.elapse deadline with stopped := some .expired }
    | none, none => w.elapse goal
    | none, some (scene :: later, again) =>
      { w with toScene := { scene with clock := goal }, ahead := some (later, again) }
    | none, some ([], true) =>
      { w with stopped := some (.asleep ⟨goal, w.sinksOf ids, { w.toScene with clock := goal }⟩) }
    | none, some ([], false) => { w with clock := goal }

def awaitMore? (w : World) (ids : List Nat) (id : Option Nat) : Option World := do
  let o ← w.opened.lookup (← id)
  let .stream sink := o.target | none
  let (_, wakes) ← w.next? (·.contains sink)
  return w.sleepUntil ids (max wakes (w.clock + 1))

def awaitAllFrom (ids : List Nat) (id : Option Nat) : (fuel : Nat) → World → World
  | 0, w => w
  | fuel + 1, w =>
    if w.stopped.isSome then w
    else match w.awaitMore? ids id with
      | some w => awaitAllFrom ids id fuel w
      | none => w

def awaitAll (w : World) (ids : List Nat) (id : Option Nat) : World :=
  awaitAllFrom ids id (w.wakings + 1) w

def awaitPipe (ids : List Nat) (inode : Inode) : (fuel : Nat) → World → World
  | 0, w => w
  | fuel + 1, w =>
    if w.stopped.isSome || w.files.node? inode != some (.pipe []) then w
    else match w.ahead, w.next? fun _ => true with
      | some _, _ => awaitPipe ids inode fuel (w.sleepUntil ids (w.clock + 1))
      | none, some (_, wakes) => awaitPipe ids inode fuel (w.sleepUntil ids (max wakes (w.clock + 1)))
      | none, none => w

def awaitPath (w : World) (here : Inode) (ids : List Nat) (path : Path) : World :=
  if w.ahead.isNone && !w.isAnyAsleep then w
  else match w.files.find here path with
    | .ok (.node inode (.pipe _)) => awaitPipe ids inode (w.wakings + wakeLimit) w
    | _ => w

def drainFrom (sink : Nat) : (fuel : Nat) → World → World
  | 0, w => w
  | fuel + 1, w =>
    match if w.closed.contains sink then none else w.next? (·.contains sink) with
    | some (_, wakes) => drainFrom sink fuel (w.elapse wakes)
    | none => w

def drain (w : World) (sink : Nat) : World := drainFrom sink w.wakings w

end World
end SvelteTransform.Sandbox
