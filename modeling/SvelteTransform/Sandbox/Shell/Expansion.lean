import SvelteTransform.Sandbox.Shell.Braces
import SvelteTransform.Sandbox.Shell.Reference

/-! Expansion of words: home directories, parameters, scripts and expressions in them. -/
namespace SvelteTransform.Sandbox.Shell.Expansion

inductive Place where
  | inside
  | word
  | assignment
  deriving DecidableEq

def home? (s : State) (user : Octets) : Option Octets :=
  let isLarger := s.dialect = .bash
  if user = [] then
    (s.value? "HOME".toList).or (if isLarger then some "/root".toList else none)
  else if user = "root".toList then some "/root".toList
  else if isLarger && user = ['+'] then s.value? "PWD".toList
  else if isLarger && user = ['-'] then s.value? "OLDPWD".toList
  else none

def tilde (s : State) (splits atEnd : Bool) (text : Octets) : List Fragment :=
  match text with
  | '~' :: rest =>
    let user := rest.takeWhile fun c => c != '/' && !(splits && Octets.isSpace c)
    if user.length = rest.length && !atEnd then [.text text false splits]
    else match home? s user with
      | some directory => [.text directory true false, .text (rest.drop user.length) false splits]
      | none => [.text text false splits]
  | text => [.text text false splits]

def intersperse (separator : Fragment) : List (List Fragment) → List Fragment
  | [] => []
  | [last] => last
  | first :: rest => first ++ separator :: intersperse separator rest

def tildes (s : State) (place : Place) (splits atStart atEnd : Bool) (text : Octets) :
    List Fragment :=
  match place with
  | .inside => [.text text false splits]
  | .word => if atStart then tilde s splits atEnd text else [.text text false splits]
  | .assignment =>
    let parts := Path.cutAt ':' text
    intersperse (.text [':'] false false) (parts.mapIdx fun i part =>
      if i = 0 && !atStart then [.text part false splits]
      else tilde s splits (i + 1 < parts.length || atEnd) part)

def allArguments (s : State) (joined quoted : Bool) : List Fragment :=
  if quoted && joined then
    [.text (s.between.intercalate s.arguments) true false]
  else
    intersperse (.boundary s.between) (s.arguments.map fun a => [.text a quoted (!quoted)])

def value? (s : State) (name : Octets) : Option Octets :=
  if isAll name then if s.arguments = [] then none else some (s.between.intercalate s.arguments)
  else s.parameter? name

def valueOf (name : Octets) (quoted : Bool) : Action (List Fragment) := do
  let s ← get
  if s.dialect = .bash then
    let held ← select name .single
    if !held.isSet && !held.isList && s.has 'u' then
      abandon ((if Octets.isName name then name else '$' :: name) ++
        Octets.say ": unbound variable")
    return held.fragments s quoted
  if isAll name then return allArguments s (name = ['*']) quoted
  match s.parameter? name with
  | some value => return [.text value quoted (!quoted)]
  | none =>
    if s.has 'u' && name != ['!'] then fail (name ++ Octets.say ": parameter not set")
    return if quoted then [.text [] true false] else []

def trimmed (operator : Octets) (pattern : List Marked) (text : Octets) : Octets :=
  let p := Pattern.ofMarked pattern
  let longest := operator.length = 2
  if operator.head? = some '#' then Pattern.dropFront p longest text
  else Pattern.dropBack p longest text

def changed (name operator : Octets) (quoted : Bool) (argument : Action (List Fragment)) :
    Action (List Fragment) := do
  let s ← get
  let value := value? s name
  let asText (text : Octets) : List Fragment := [.text text quoted (!quoted)]
  let held (found : List Fragment) : List Fragment :=
    if quoted then .text [] true false :: found else found
  let missing := match value with
    | none => true
    | some text => operator.head? = some ':' && text = []
  let needed (use : Octets → List Fragment) : Action (List Fragment) := do
    match value with
    | some text => return use text
    | none =>
      if s.has 'u' && !isAll name then fail (name ++ Octets.say ": parameter not set")
      return use []
  match String.ofList (operator.filter (· != ':')) with
  | "l" =>
    if isAll name then return asText (Octets.ofInt s.arguments.length)
    needed fun text => asText (Octets.ofInt text.length)
  | "-" => if missing then return held (← argument) else valueOf name quoted
  | "+" => if missing then return held [] else return held (← argument)
  | "=" =>
    if !missing then valueOf name quoted
    else
      let text := Fragment.plain (← argument)
      unless Octets.isName name do fail (name ++ Octets.say ": bad variable name")
      assign name text
      return asText text
  | "?" =>
    if !missing then valueOf name quoted
    else
      let text := Fragment.plain (← argument)
      let standard := if operator.head? = some ':' then "parameter not set or null"
        else "parameter not set"
      fail (name ++ Octets.say ": " ++ if text = [] then Octets.say standard else text)
  | _ =>
    let pattern := Fragment.marked (← argument)
    needed fun text => asText (trimmed operator pattern text)

def calculated (text : Octets) : Action Octets := do
  if ← isLarger then return Octets.ofInt (← computed text)
  match Arithmetic.evaluate (← get).parameter? text with
  | .error message => fail message
  | .ok (n, changes) =>
    for (name, value) in changes do assign name (Octets.ofInt value)
    return Octets.ofInt n

def channel (writes : Bool) (printed : Action Octets) (script : Command) : Action Octets := do
  let text ← if writes then printed else pure []
  modifyGet fun s =>
    let free := ((List.range 64).map (63 - ·)).find? fun n => (s.descriptors.lookup n).isNone
    let number := free.getD 63
    let (id, reader, world) :=
      if writes then
        let (id, world) := s.world.add { target := .source text, reads := true, writes := false }
        (id, none, world)
      else
        let (sink, id, world) := s.world.addSink
        (id, some (sink, id, script), world)
    (Octets.say s!"/dev/fd/{number}", { s with
      world
      descriptors := (number, id) :: s.descriptors
      habits := { s.habits with channels := (number, reader) :: s.habits.channels } })

mutual
def word (capture : Command → Action Octets) :
    (fuel : Nat) → Place → (splits : Bool) → Word → Action (List Fragment)
  | 0, _, _, _ => throw .spent
  | fuel + 1, place, splits, pieces => do
    if place = .word && (← isLarger) then
      -- What looks like an assignment is treated like one.
      match pieces with
      | .text text false :: rest =>
        let name := text.takeWhile (· != '=')
        if Octets.isName name && name.length < text.length then
          let value := text.drop (name.length + 1)
          let after := if value = [] then rest else .text value false :: rest
          let found ← wordFrom capture fuel .assignment splits true after
          return .text (name ++ ['=']) false splits :: found
      | _ => pure ()
    wordFrom capture fuel place splits true pieces

def wordFrom (capture : Command → Action Octets) :
    (fuel : Nat) → Place → (splits atStart : Bool) → Word → Action (List Fragment)
  | 0, _, _, _, _ => throw .spent
  | _, _, _, _, [] => return []
  | fuel + 1, place, splits, atStart, first :: rest => do
    let found ← match first with
      | .text text false => pure (tildes (← get) place splits atStart rest.isEmpty text)
      | other => piece capture fuel other
    return found ++ (← wordFrom capture fuel place splits false rest)

def piece (capture : Command → Action Octets) : (fuel : Nat) → Piece → Action (List Fragment)
  | 0, _ => throw .spent
  | fuel + 1, found =>
    match found with
    | .text text quoted => return [.text text quoted false]
    | .parameter name operator argument quoted =>
      if operator = [] then valueOf name quoted
      else changed name operator quoted (word capture fuel .word (!quoted) argument)
    | .faulty => fail (Octets.say "Bad substitution")
    | .output script quoted => do
      let printed ← capture script
      return [.text (Octets.dropLineEnds (printed.filter (· != '\x00'))) quoted (!quoted)]
    | .number expression quoted => do
      let text := Fragment.plain (← word capture fuel .inside false expression)
      return [.text (← calculated text) quoted (!quoted)]
    | .reference asking name subscript operator arguments text quoted => do
      let inside : Inside := {
        text := fun w => return Fragment.plain (← word capture fuel .word false w)
        pattern := fun w => return Fragment.marked (← word capture fuel .word false w)
        fragments := fun w => word capture fuel .word (!quoted) w }
      reference inside asking name subscript operator arguments text quoted
    | .unknown text _ => discard (text ++ Octets.say ": bad substitution")
    | .assignment name _ appends value => do
      let sign := if appends then ['+', '='] else ['=']
      return .text (name ++ sign) true false :: (← word capture fuel .assignment false value)
    | .list _ => return []
    | .process writes script => do
      let path ← channel writes (capture script) script
      return [.text path true false]
end

def named (field : List Marked) : Action (List Octets) := do
  let s ← get
  if s.has 'f' then return [field.map (·.1)]
  if s.dialect = .dash then return Pattern.expand s.world.files s.here field
  let manner : Wildcard.Manner := {
    extended := s.isOn "extglob", folds := s.isOn "nocaseglob"
    showsHidden := s.isOn "dotglob", descends := s.isOn "globstar" }
  match Wildcard.expand? s.world.files s.here manner field with
  | none => return [field.map (·.1)]
  | some [] =>
    if s.isOn "failglob" then discard (Octets.say "no match: " ++ field.map (·.1))
    return if s.isOn "nullglob" then [] else [field.map (·.1)]
  | some found => return found

def fields (capture : Command → Action Octets) (fuel : Nat) (pieces : Word) :
    Action (List Octets) := do
  let one (pieces : Word) : Action (List Octets) := do
    let found := Fragment.fields (← get).separators (← word capture fuel .word false pieces)
    return (← found.mapM named).flatten
  if (← get).has 'B' then return (← (Braces.expand pieces).mapM one).flatten
  one pieces

def whole (capture : Command → Action Octets) (fuel : Nat) (place : Place) (pieces : Word) :
    Action Octets := return Fragment.plain (← word capture fuel place false pieces)

def pattern (capture : Command → Action Octets) (fuel : Nat) (pieces : Word) :
    Action (List Marked) := return Fragment.marked (← word capture fuel .word false pieces)

end SvelteTransform.Sandbox.Shell.Expansion
