import SvelteTransform.Sandbox.Shell.Larger.Declare

/-! Commands of the larger dialect that read: into variables field by field, or into an array line by
line. -/
namespace SvelteTransform.Sandbox.Shell

structure ReadStyle where
  raw : Bool := false
  delimiter : Char := '\n'
  limit : Option Nat := none
  exact : Bool := false
  descriptor : Nat := 0
  array : Option Octets := none

def inputPart (style : ReadStyle) : (fuel count : Nat) → Octets → List (Char × Bool) × Nat × Bool
  | 0, _, _ => ([], 0, false)
  | fuel + 1, count, text =>
    if style.limit.any (· ≤ count) then ([], 0, true)
    else match text with
      | [] => ([], 0, false)
      | c :: rest =>
        if c = style.delimiter && !style.exact then ([], 1, true)
        else if c = '\\' && !style.raw then
          match rest with
          | [] => ([], 1, false)
          | d :: rest =>
            let isJoint := d = '\n'
            let (more, used, ended) := inputPart style fuel (if isJoint then count else count + 1) rest
            (if isJoint then more else (d, true) :: more, used + 2, ended)
        else
          let (more, used, ended) := inputPart style fuel (count + 1) rest
          (if c = '\x00' then more else (c, false) :: more, used + 1, ended)

def awaitPart (style : ReadStyle) : (fuel : Nat) → Action (List (Char × Bool) × Nat × Bool)
  | 0 => throw .spent
  | fuel + 1 => do
    let s ← get
    if s.world.stopped.isSome then throw .spent
    let source := s.descriptors.lookup style.descriptor
    let text := match source.map s.world.unread with
      | some (.ok text) => text
      | _ => []
    let found := inputPart style (text.length + 1) 0 text
    match if found.2.2 then none else s.world.awaitMore? s.held source with
    | some world =>
      set { s with world }
      awaitPart style fuel
    | none => return found

def allFields (separators : Octets) : (fuel : Nat) → List (Char × Bool) → List Octets
  | 0, _ | _, [] => []
  | fuel + 1, line =>
    let separates : Char × Bool → Bool := fun (c, escaped) => !escaped && separators.contains c
    let isBlank : Char × Bool → Bool := fun (c, escaped) =>
      separates (c, escaped) && Octets.isSpace c
    let field := line.takeWhile (!separates ·)
    let rest := (line.drop field.length).dropWhile isBlank
    let rest := match rest with
      | c :: more => if separates c then more.dropWhile isBlank else rest
      | [] => []
    field.map (·.1) :: allFields separators fuel rest

def readStyle (letters : List (Char × Octets)) (style : ReadStyle) : Action ReadStyle := do
  match letters with
  | [] => return style
  | (c, text) :: rest =>
    let wrong (what : String) : Action ReadStyle := do
      complain (text ++ Octets.say s!": {what}")
      finish 1
      throw .failed
    match c with
    | 'r' => readStyle rest { style with raw := true }
    | 'd' => readStyle rest { style with delimiter := text.headD '\x00' }
    | 'a' => readStyle rest { style with array := some text }
    | 'n' | 'N' =>
      if Octets.isNumber text then
        readStyle rest { style with limit := some (Octets.natural text), exact := c = 'N' }
      else wrong "invalid number"
    | 'u' =>
      if !Octets.isNumber text then wrong "invalid file descriptor specification"
      else
        let descriptor := Octets.natural text
        if ((← get).descriptors.lookup descriptor).isNone then
          wrong "invalid file descriptor: Bad file descriptor"
        else readStyle rest { style with descriptor }
    | 't' =>
      let digits := text.filter (· != '.')
      if Octets.isNumber digits && (text.filter (· = '.')).length ≤ 1 then readStyle rest style
      else wrong "invalid timeout specification"
    | _ => readStyle rest style

def targetOf (text : Octets) : Option Given := Given.ofArgument? (text ++ ['='])

def fill (target : Given) (value : Octets) : Action Unit :=
  Given.perform { target with value := .inl value }

def readLarger (arguments : List Octets) : Action Unit := do
  let (letters, names) ← optionsOf "read" "ersa:d:i:n:N:p:t:u:" arguments
  let style ← readStyle letters {}
  let checked (name : Octets) : Action Given := do
    match targetOf name with
    | some target => return target
    | none =>
      invalidName name
      throw .failed
  let targets ← names.mapM checked
  let (line, count, ended) ← awaitPart style ((← get).world.wakings + 1)
  let s ← get
  if let some id := s.descriptors.lookup style.descriptor then
    set { s with world := s.world.pass id count }
  let separators := s.separators
  let blank : Char × Bool → Bool := fun (c, escaped) =>
    !escaped && separators.contains c && Octets.isSpace c
  let text := line.map (·.1)
  match style.array, targets with
  | some name, _ =>
    let _ ← checked name
    let values := allFields separators (line.length + 1) (line.dropWhile blank)
    Given.giveAll name false [⟨none, false, values⟩]
  | none, [] => give "REPLY".toList none false text
  | none, target :: more =>
    if style.exact then
      fill target text
      for other in more do fill other []
    else
      let fields := lineFields separators targets.length (line.dropWhile blank)
      for (target, i) in targets.zipIdx do fill target ((fields[i]?).getD [])
  finish (if ended then 0 else 1)

def menu (width : Nat) (words : List Octets) : Octets :=
  let digits (n : Nat) : Nat := (Octets.ofInt n).length
  let count := words.length
  let column := (words.map List.length).foldl max 0 + digits count + 4
  let columns := max 1 (width / column)
  let rows := (count + columns - 1) / columns
  let columns := (count + rows - 1) / rows
  let (rows, columns) := if rows = 1 then (columns, 1) else (rows, columns)
  let gap (start stop : Nat) : Octets :=
    let tabs := stop / 8 - start / 8
    if tabs = 0 then List.replicate (stop - start) ' '
    else List.replicate tabs '\t' ++ List.replicate (stop % 8) ' '
  let cell (row i : Nat) : Octets :=
    let n := i * rows + row
    match words[n]? with
    | none => []
    | some word =>
      let number := Octets.ofInt (n + 1 : Nat)
      let room := if i = 0 then digits rows else digits count
      let text := List.replicate (room - number.length) ' ' ++ number ++ [')', ' '] ++ word
      let isLast := count ≤ n + rows
      text ++ (if isLast then [] else gap (i * column + word.length + room + 2) ((i + 1) * column))
  (List.range rows).flatMap fun row =>
    ((List.range columns).flatMap (cell row)) ++ ['\n']

structure LineStyle where
  delimiter : Char := '\n'
  count : Nat := 0
  origin : Option Nat := none
  skipped : Nat := 0
  trims : Bool := false
  descriptor : Nat := 0

def lineStyle (letters : List (Char × Octets)) (style : LineStyle) : Action LineStyle := do
  match letters with
  | [] => return style
  | (c, text) :: rest =>
    let number (what : String) : Action Nat := do
      if Octets.isNumber text then return Octets.natural text
      complain (text ++ Octets.say s!": invalid {what}")
      finish 1
      throw .failed
    match c with
    | 'd' => lineStyle rest { style with delimiter := text.headD '\x00' }
    | 'n' => lineStyle rest { style with count := ← number "line count" }
    | 'O' => lineStyle rest { style with origin := some (← number "array origin") }
    | 's' => lineStyle rest { style with skipped := ← number "line count" }
    | 't' => lineStyle rest { style with trims := true }
    | 'u' => lineStyle rest { style with descriptor := ← number "file descriptor specification" }
    | _ => lineStyle rest style

def mapLines (name : String) (arguments : List Octets) : Action Unit := do
  let (letters, names) ← optionsOf name "d:n:O:s:tu:C:c:" arguments
  let style ← lineStyle letters {}
  let array := names.headD "MAPFILE".toList
  unless Octets.isName array do
    invalidName array
    throw .failed
  let s ← get
  let source := s.descriptors.lookup style.descriptor
  let world := s.world.awaitAll s.held source
  set { s with world }
  if world.stopped.isSome then throw .spent
  let text := match source.map world.unread with
    | some (.ok text) => text
    | _ => []
  let lines := (Octets.partsTo style.delimiter text).drop style.skipped
  let lines := if style.count = 0 then lines else lines.take style.count
  let used := if style.count = 0 then text.length
    else ((Octets.partsTo style.delimiter text).take (style.skipped + style.count)).flatten.length
  if let some id := source then modify fun s => { s with world := s.world.pass id used }
  let cut (line : Octets) : Octets :=
    if style.trims && line.getLast? = some style.delimiter then line.dropLast else line
  let values := lines.map fun line => (cut line).filter (· != '\x00')
  match style.origin with
  | none => Given.giveAll array false [⟨none, false, values⟩]
  | some n => Given.giveAll array true [⟨some (Octets.ofInt (n : Nat)), false, values⟩]
  finish 0

end SvelteTransform.Sandbox.Shell
