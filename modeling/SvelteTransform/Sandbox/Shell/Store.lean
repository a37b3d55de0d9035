import SvelteTransform.Sandbox.Shell.Calculation
import SvelteTransform.Sandbox.Shell.State

/-! Variables: how they get values, what becomes of these, and the elements of arrays. -/
namespace SvelteTransform.Sandbox.Shell

def discard {α : Type} (text : Octets) (status : Nat := 1) : Action α := do
  complain text
  finish status
  throw .discarded

def abandon {α : Type} (text : Octets) : Action α := do
  complain text
  finish (if (← get).habits.depth = 0 then 127 else 1)
  throw .exited

def cased (marks value : Octets) : Octets :=
  if marks.contains 'l' then value.map Char.toLower
  else if marks.contains 'u' then value.map Char.toUpper
  else if marks.contains 'c' then
    match value with
    | c :: rest => c.toUpper :: rest.map Char.toLower
    | [] => []
  else value

namespace State

def items? (s : State) (name : Octets) : Option Items := (s.variableOf name).bind (·.items)

def element? (s : State) (name key : Octets) : Option Octets :=
  (s.variableOf name).bind fun b => match b.items with
    | some items => items.get? key
    | none => if key = ['0'] then b.value else none

def nextNumber (s : State) (name : Octets) : Nat :=
  match s.variableOf name with
  | some { items := some items, .. } => items.next
  | some { value := some _, .. } => 1
  | _ => 0

def names (s : State) : Calculation.Names where
  value? := s.value?
  element? := s.element?
  isKeyed name := (s.items? name).any (·.isKeyed)
  next := s.nextNumber
  isStrict := s.has 'u'

end State

def refuseChange {α : Type} (name : Octets) : Action α := do
  let before := (← get).performing
  modify ({ · with performing := none })
  complain (name ++ Octets.say ": readonly variable")
  modify ({ · with performing := before })
  finish 1
  throw .discarded

def put (name : Octets) (key : Option Octets) (value : Octets) : Action Unit := do
  let s ← get
  let name := s.referent 8 name
  let old := s.binding name
  if old.readonly then refuseChange name
  let value := cased old.marks value
  match String.ofList name with
  | "RANDOM" => set { s with habits := { s.habits with seed := Octets.natural value } }
  | "SECONDS" =>
    let since : Int := (s.world.clock / 1000 : Nat) - ((Octets.integer? value).getD 0)
    set { s with habits := { s.habits with since } }
  | "FUNCNAME" | "BASH_SOURCE" | "BASH_LINENO" | "_" => return
  | _ =>
    let exported := old.exported || s.has 'a'
    match old.items, key with
    | some items, key =>
      set (s.bind name { old with exported, items := some (items.set (key.getD ['0']) value) })
    | none, some key =>
      let items := Items.numbered (old.value.toList.map (0, ·))
      set (s.bind name { old with exported, value := none, items := some (items.set key value) })
    | none, none => set (s.bind name { old with exported, value := some value })

def nextSeed (seed : Nat) : Nat :=
  let seed := if seed = 0 then 123459876 else seed
  let low := 16807 * (seed % 127773)
  let high := 2836 * (seed / 127773)
  if high < low then low - high else low + 2147483647 - high

def draw (text : Octets) : Action Unit := do
  if Octets.isWithin "RANDOM".toList text then
    modify fun s => { s with habits := { s.habits with seed := nextSeed s.habits.seed } }

def computed (text : Octets) : Action Int := do
  draw text
  match Calculation.evaluate (← get).names text with
  | .ok (n, changes) =>
    for ((name, key), value) in changes do put name key value
    return n
  | .error (.unbound name) => abandon (name ++ Octets.say ": unbound variable")
  | .error fault => discard fault.message

def give (name : Octets) (key : Option Octets) (appends : Bool) (value : Octets) :
    Action Unit := do
  let s ← get
  let marks := ((s.variableOf name).map (·.marks)).getD []
  let old := if appends then
      ((key.map (s.element? name)).getD (s.value? name)).getD []
    else []
  if marks.contains 'i' then
    let base ← if old = [] then pure 0 else computed old
    put name key (Octets.ofInt (Numeral.wrap (base + (← computed value))))
  else put name key (old ++ value)

def keyOf (name text : Octets) : Action (Option Octets) := do
  let s ← get
  if (s.items? name).any (·.isKeyed) then return if text = [] then none else some text
  let n ← computed text
  let n := if n < 0 then n + s.nextNumber name else n
  return if n < 0 then none else some (Octets.ofInt n)

def assign (name value : Octets) : Action Unit := do
  match (← get).dialect with
  | .dash =>
    if ((← get).binding name).readonly then fail (name ++ Octets.say ": is read only")
    modify (·.set name value)
  | .bash => give name none false value

end SvelteTransform.Sandbox.Shell
