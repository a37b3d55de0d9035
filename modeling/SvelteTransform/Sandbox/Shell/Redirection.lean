import SvelteTransform.Sandbox.Shell.Expansion

/-! Redirections: which open file a number stands for while a command runs. -/
namespace SvelteTransform.Sandbox.Shell.Redirection

structure Prepared where
  descriptor : Nat
  kind : RedirectKind
  text : Octets

def expand (capture : Command → Action Octets) (fuel : Nat) (redirects : List Redirect) :
    Action (List Prepared) :=
  redirects.mapM fun (descriptor, kind, target) => do
    match kind with
    | .document number =>
      let target := ((← get).documents.lookup number).getD []
      return ⟨descriptor, kind, ← Expansion.whole capture fuel .inside target⟩
    | .line =>
      return ⟨descriptor, kind, (← Expansion.whole capture fuel .word target) ++ ['\n']⟩
    | _ => return ⟨descriptor, kind, ← Expansion.whole capture fuel .word target⟩

def failure (creates : Bool) (error : SystemError) : String :=
  match error with
  | .notFound | .notDirectory => if creates then "Directory nonexistent" else "No such file"
  | error => error.reason

def point (descriptor : Nat) (id : Option Nat) : Action Unit := modify fun s =>
  let others := s.descriptors.filter (·.1 != descriptor)
  { s with descriptors := (id.map (descriptor, ·)).toList ++ others }

def protects (s : State) (r : Prepared) : Bool :=
  s.has 'C' && (r.kind = .write || r.kind = .both false) && match s.kind r.text with
    | some (.file ..) => true
    | _ => false

def openOne (r : Prepared) : Action Bool := do
  let s ← get
  let refuse (text : Octets) : Action Bool := do
    complain text
    return false
  let opened (way : World.Way) (creates : Bool) : Action Bool := do
    let s ← get
    match (s.world.masked s.mask).openPath s.here s.descriptors (pathOf r.text) way with
    | .ok (id, world) =>
      set { s with world }
      point r.descriptor (some id)
      return true
    | .error error =>
      refuse (← inDialect
        (Octets.say (if creates then "cannot create " else "cannot open ") ++ r.text ++
          Octets.say s!": {failure creates error}")
        (r.text ++ Octets.say s!": {error.reason}"))
  match r.kind with
  | .read =>
    let world := s.world.awaitPath s.here s.held (pathOf r.text)
    set { s with world }
    if (← get).world.stopped.isSome then throw .spent
    opened .read false
  | .write =>
    if protects s r then
      refuse (← inDialect (Octets.say "cannot create " ++ r.text ++ Octets.say ": File exists")
        (r.text ++ Octets.say ": cannot overwrite existing file"))
    else opened .write true
  | .both appends =>
    if protects s r then refuse (r.text ++ Octets.say ": cannot overwrite existing file")
    else
      let isOpen ← opened (if appends then .append else .write) true
      if isOpen then point 2 ((← get).descriptors.lookup 1)
      return isOpen
  | .overwrite => opened .write true
  | .append => opened .append true
  | .readWrite => opened .readWrite true
  | .document _ | .line =>
    let (id, world) := s.world.add { target := .source r.text, reads := true, writes := false }
    set { s with world }
    point r.descriptor (some id)
    return true
  | .copy =>
    if r.text = ['-'] then
      point r.descriptor none
      return true
    else
      let moves := s.dialect = .bash && r.text.getLast? = some '-'
      let text := if moves then r.text.dropLast else r.text
      if s.dialect = .bash && !Octets.isNumber text then
        return ← refuse (text ++ Octets.say ": ambiguous redirect")
      if s.dialect = .dash && !(text.length = 1 && text.all Octets.isDigit) then
        return ← refuse (Octets.say "Syntax error: Bad fd number")
      match s.descriptors.lookup (Octets.natural text) with
      | some id =>
        point r.descriptor (some id)
        if moves then point (Octets.natural text) none
        return true
      | none => refuse (text ++ Octets.say ": Bad file descriptor")

def openAll : List Prepared → Action Bool
  | [] => return true
  | r :: rest => do if ← openOne r then openAll rest else return false

def closeSince (unused : Nat) : Action Unit := modify fun s =>
  let kept (id : Nat) : Bool :=
    id < unused || s.descriptors.any (·.2 = id) || s.world.ahead.isSome || s.world.isAnyAsleep
  { s with world := { s.world with opened := s.world.opened.filter (kept ·.1) } }

def around (redirects : List Prepared) (refused body : Action Unit) : Action Unit := do
  if redirects.isEmpty then body
  else
    let start ← get
    let before := start.descriptors
    let unused := start.world.unused
    let changed := redirects.flatMap fun r => match r.kind with
      | .both _ => [1, 2]
      | .copy =>
        let left := if r.text.getLast? = some '-' then r.text.dropLast else []
        r.descriptor :: if Octets.isNumber left then [Octets.natural left] else []
      | _ => [r.descriptor]
    let aside := changed.filterMap (before.lookup ·)
    modify fun s => { s with saved := aside ++ s.saved }
    let restore : Action Unit := do
      for descriptor in changed do point descriptor (before.lookup descriptor)
      modify ({ · with saved := start.saved })
      closeSince unused
    let run : Action Unit := do
      if ← openAll redirects then body
      else
        finish (if ← isLarger then 1 else 2)
        refused
    tryCatch run fun halt => do
      restore
      throw halt
    restore

end SvelteTransform.Sandbox.Shell.Redirection
