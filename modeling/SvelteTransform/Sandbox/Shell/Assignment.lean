import SvelteTransform.Sandbox.Shell.Expansion

/-! Assignments of the larger dialect: to variables, to elements and to whole arrays. -/
namespace SvelteTransform.Sandbox.Shell

structure Entry where
  key : Option Octets
  appends : Bool
  values : List Octets
  deriving DecidableEq

structure Given where
  name : Octets
  subscript : Option Octets
  appends : Bool
  value : Octets ⊕ List Entry
  deriving DecidableEq

namespace Given

def ofText (name value : Octets) : Given := ⟨name, none, false, .inl value⟩

def ofArgument? (text : Octets) : Option Given :=
  let name := text.takeWhile Octets.isNamePart
  let rest := text.drop name.length
  let (subscript, rest) : Option Octets × Octets := match rest with
    | '[' :: inside => match Calculation.subscript 0 inside with
      | some (subscript, rest) => (some subscript, rest)
      | none => (none, rest)
    | rest => (none, rest)
  if !Octets.isName name then none
  else match rest with
    | '+' :: '=' :: value => some ⟨name, subscript, true, .inl value⟩
    | '=' :: value => some ⟨name, subscript, false, .inl value⟩
    | _ => none

def spelled (quoting : Octets → Octets) (g : Given) : Octets :=
  let subscript := match g.subscript with
    | some text => '[' :: text ++ [']']
    | none => []
  let value := match g.value with
    | .inl text => quoting text
    | .inr entries => '(' :: [' '].intercalate (entries.flatMap fun e => e.values.map fun value =>
        (match e.key with
          | some key => '[' :: key ++ [']', '=']
          | none => []) ++ Quoting.traced value) ++ [')']
  g.name ++ subscript ++ (if g.appends then ['+', '='] else ['=']) ++ value

def traced (g : Given) : Octets :=
  g.spelled fun text => if text = [] then [] else Quoting.traced text

def numbered (name : Octets) : (entries : List Entry) → (place : Nat) →
    Action (List (Nat × Bool × Octets))
  | [], _ => return []
  | entry :: rest, place => do
    let place ← match entry.key with
      | none => pure place
      | some text =>
        match ← keyOf name text with
        | some key => pure (Octets.natural key)
        | none => discard ('[' :: text ++ Octets.say "]=: bad array subscript")
    let here := entry.values.mapIdx fun i value => (place + i, entry.appends, value)
    return here ++ (← numbered name rest (place + entry.values.length))

def pairs : List Octets → List (Octets × Octets)
  | key :: value :: rest => (key, value) :: pairs rest
  | [key] => [(key, [])]
  | [] => []

def giveAll (name : Octets) (appends : Bool) (entries : List Entry) : Action Unit := do
  let s ← get
  let name := s.referent 8 name
  let old := s.binding name
  if old.readonly then refuseChange name
  let isKeyed := old.items.any (·.isKeyed)
  let kept : Items := if appends then
      old.items.getD (.numbered (old.value.toList.map (0, ·)))
    else if isKeyed then .keyed [] else .numbered []
  let begun : Binding := { old with
    items := some kept, value := some [], exported := old.exported || s.has 'a' }
  set (s.bind name begun)
  if isKeyed then
    if entries.all (·.key.isNone) then
      for (key, value) in pairs (entries.flatMap (·.values)) do give name (some key) false value
    else for entry in entries do
      match entry.key with
      | some key => give name (some key) entry.appends (entry.values.headD [])
      | none =>
        complain (name ++ Octets.say ": " ++ entry.values.headD [] ++
          Octets.say ": must use subscript when assigning associative array")
  else
    let found ← numbered name entries kept.next
    let isPlain := old.marks.all (· = 'n') && found.all (!·.2.1)
    let places := found.map (·.1)
    let isInOrder := (places.zip (places.drop 1)).all fun (a, b) => a < b
    match kept with
    | .numbered items =>
      if isPlain && isInOrder && places.head?.all (kept.next ≤ ·) then
        let items := items ++ found.map fun (n, _, value) => (n, value)
        modify fun s => s.bind name { begun with items := some (.numbered items) }
        return
    | .keyed _ => pure ()
    for (n, adds, value) in found do give name (some (Octets.ofInt (n : Nat))) adds value

def perform (g : Given) : Action Unit := do
  match g.value, g.subscript with
  | .inr entries, _ => giveAll g.name g.appends entries
  | .inl text, none => give g.name none g.appends text
  | .inl text, some subscript =>
    match ← keyOf g.name subscript with
    | some key => give g.name (some key) g.appends text
    | none => discard (g.name ++ '[' :: subscript ++ Octets.say "]: bad array subscript")

def ofPiece (capture : Command → Action Octets) (fuel : Nat) (name : Octets)
    (subscript : List Word) (appends : Bool) (value : Word) : Action Given := do
  let keyText (word : Word) : Action Octets := Expansion.whole capture fuel .inside word
  let subscript ← match subscript with
    | word :: _ => pure (some (← keyText word))
    | [] => pure none
  let entry (item : Word) : Action Entry := do
    match item with
    | [.assignment _ (key :: _) adds value] =>
      return ⟨some (← keyText key), adds, [← Expansion.whole capture fuel .assignment value]⟩
    | word => return ⟨none, false, ← Expansion.fields capture fuel word⟩
  match value with
  | [.list items] => return ⟨name, subscript, appends, .inr (← items.mapM entry)⟩
  | value =>
    return ⟨name, subscript, appends, .inl (← Expansion.whole capture fuel .assignment value)⟩

def ofAssignment (capture : Command → Action Octets) (fuel : Nat) (name : Octets) (value : Word) :
    Action Given := do
  match value with
  | [.assignment name subscript appends value] =>
    ofPiece capture fuel name subscript appends value
  | value => return .ofText name (← Expansion.whole capture fuel .assignment value)

end Given
end SvelteTransform.Sandbox.Shell
