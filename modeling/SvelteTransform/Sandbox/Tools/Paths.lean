import SvelteTransform.Sandbox.Program
import SvelteTransform.Sandbox.Tools.Listing

/-! Programs that take paths apart and find out where they lead. -/
namespace SvelteTransform.Sandbox.Tools

def answerEnd (given : Given) : Octets := if given.has 'z' then ['\x00'] else ['\n']

def basename (c : Call) : Running Unit :=
  let options : Options := {
    flags := "az", valued := "s", mixed := false
    long := [("suffix", 's'), ("multiple", 'a'), ("zero", 'z')] }
  withOptions c options fun given => do
    let named (suffix path : Octets) : Octets :=
      let path' := (path.reverse.dropWhile (· = '/')).reverse
      if path' = [] then path.take 1
      else
        let name := (path'.reverse.takeWhile (· != '/')).reverse
        if suffix.isSuffixOf name && suffix != name then name.take (name.length - suffix.length)
        else name
    match given.operands, given.has 'a' || given.has 's' with
    | [], _ => missingOperand c
    | paths, true =>
      for path in paths do print (named ((given.value? 's').getD []) path ++ answerEnd given)
    | [path], false => print (named [] path ++ answerEnd given)
    | [path, suffix], false => print (named suffix path ++ answerEnd given)
    | _ :: _ :: extra :: _, false => tryHelp c (Octets.say "extra operand " ++ quoted extra)

def dirname (c : Call) : Running Unit :=
  withOptions c { flags := "z", long := [("zero", 'z')] } fun given => do
    if given.operands = [] then missingOperand c
    for path in given.operands do
      let back := path.reverse.dropWhile (· = '/')
      let above := (back.dropWhile (· != '/')).dropWhile (· = '/')
      let text := if above != [] then above.reverse
        else if path.head? = some '/' then ['/'] else ['.']
      print (text ++ answerEnd given)

inductive Presence where
  | all
  | allButLast
  | nothing
  deriving DecidableEq, Repr

def namesLoosely (files : Files) : (fuel : Nat) → (done rest : List Path.Segment) →
    Except SystemError (List Path.Segment)
  | _, done, [] => .ok done
  | 0, _, _ => .error .linkLoop
  | fuel + 1, done, segment :: rest =>
    if Path.isVacuous segment then namesLoosely files fuel done rest
    else if segment = ['.', '.'] then namesLoosely files fuel done.dropLast rest
    else match files.find Files.root ⟨Files.spelling (done ++ [segment])⟩ false with
      | .ok (.node _ (.link target)) =>
        namesLoosely files fuel (if target.isAbsolute then [] else done)
          (Path.cut target.spelling ++ rest)
      | _ => namesLoosely files fuel (done ++ [segment]) rest

def namesOf (c : Call) (path : Octets) (presence : Presence) :
    Running (Except SystemError (List Path.Segment)) := do
  let files := (← get).files
  let path := pathOf path
  if presence = .nothing then
    if path.spelling = [] then return .error .notFound
    let start := if path.isAbsolute then some [] else files.namesTo (files.entries.length + 1) c.here
    match start with
    | some start => return namesLoosely files (path.spelling.length + 1000) start (Path.cut path.spelling)
    | none => return .error .notFound
  match files.find c.here path true with
  | .error error => return .error error
  | .ok found =>
    let isThere : Bool := match found with
      | .node .. => true
      | .absent _ => presence = .allButLast
    match isThere, files.placeOf? found with
    | true, some path => return .ok ((Path.cut path.spelling).filter (· != []))
    | _, _ => return .error .notFound

def namesSpelled (c : Call) (path : Octets) : Running (List Path.Segment) := do
  let files := (← get).files
  let path := pathOf path
  let start := if path.isAbsolute then [] else
    (files.namesTo (files.entries.length + 1) c.here).getD []
  return (Path.cut path.spelling).foldl (fun names segment =>
    if Path.isVacuous segment then names
    else if segment = ['.', '.'] then names.dropLast
    else names ++ [segment]) start

def spelledFrom (names : List Path.Segment) : Octets := Octets.ofText (Files.spelling names)

def readlink (c : Call) : Running Unit :=
  let options : Options := {
    flags := "femnqsvz"
    long := [("canonicalize", 'f'), ("canonicalize-existing", 'e'), ("canonicalize-missing", 'm'),
      ("no-newline", 'n'), ("quiet", 'q'), ("silent", 's'), ("verbose", 'v'), ("zero", 'z')] }
  withOptions c options fun given => do
    if given.operands = [] then missingOperand c
    let many := 1 < given.operands.length
    if given.has 'n' && many then
      tell (c.name ++ Octets.say ": ignoring --no-newline with multiple arguments\n")
    let ending := if given.has 'n' && !many then [] else answerEnd given
    let refuse (path : Octets) (error : SystemError) : Running Unit := do
      fails 1
      if given.has 'v' then complainOf c path error
    for path in given.operands do
      let asked := (given.options.reverse.find? fun (letter, _) => "fem".toList.contains letter).map (·.1)
      match asked with
      | some letter =>
        let presence : Presence := match letter with
          | 'e' => .all
          | 'f' => .allButLast
          | _ => .nothing
        match ← namesOf c path presence with
        | .ok names => print (spelledFrom names ++ ending)
        | .error error => refuse path error
      | none =>
        match ← there c path false with
        | .ok (_, .link target) => print (Octets.ofText target.spelling ++ ending)
        | .ok _ => refuse path .invalid
        | .error error => refuse path error

def sharedFront : List Path.Segment → List Path.Segment → Nat
  | a :: as, b :: bs => if a = b then sharedFront as bs + 1 else 0
  | _, _ => 0

def relative (directory names : List Path.Segment) : Octets :=
  let n := sharedFront directory names
  let way := List.replicate (directory.length - n) ['.', '.'] ++ names.drop n
  if way = [] then ['.'] else Octets.ofText (['/'].intercalate way)

def realpath (c : Call) : Running Unit :=
  let options : Options := {
    flags := "emqszLPE", valued := "RB"
    long := [("canonicalize-existing", 'e'), ("canonicalize-missing", 'm'), ("canonicalize", 'E'),
      ("logical", 'L'), ("physical", 'P'), ("quiet", 'q'), ("strip", 's'), ("no-symlinks", 's'),
      ("zero", 'z'), ("relative-to", 'R'), ("relative-base", 'B')] }
  withOptions c options fun given => do
    if given.operands = [] then missingOperand c
    let presence : Presence := match (given.options.reverse.find? fun (letter, _) =>
        "em".toList.contains letter).map (·.1) with
      | some 'e' => .all
      | some _ => .nothing
      | none => .allButLast
    let names (path : Octets) : Running (Except SystemError (List Path.Segment)) := do
      let path ← if given.has 'L' && path != [] then pure (spelledFrom (← namesSpelled c path))
        else pure path
      let found ← namesOf c path presence
      if given.has 's' then
        match found with
        | .ok _ => return .ok (← namesSpelled c path)
        | .error error => return .error error
      else return found
    let about (option : Char) : Running (Except Unit (Option (List Path.Segment))) := do
      match given.value? option with
      | none => return .ok none
      | some path =>
        let found ← names path
        let isDirectory := (← get).files.isDirectory c.here (pathOf path)
        match found with
        | .ok found =>
          if presence matches .all && !isDirectory then
            complainOf c path .notDirectory
            return .error ()
          return .ok (some found)
        | .error error =>
          complainOf c path error
          return .error ()
    match ← about 'R', ← about 'B' with
    | .ok goal, .ok base =>
      for path in given.operands do
        match ← names path with
        | .ok found =>
          let isWithin := base.all (·.isPrefixOf found) &&
            base.all fun base => goal.all (base.isPrefixOf ·)
          let text := match goal.or base with
            | some directory =>
              if isWithin then relative directory found else spelledFrom found
            | none => spelledFrom found
          print (text ++ answerEnd given)
        | .error error =>
          fails 1
          unless given.has 'q' do complainOf c path error
    | _, _ => return

def which (c : Call) : Running Unit :=
  withOptions c { flags := "as" } fun given => do
    for name in given.operands do
      let directories := Path.cutAt ':' ((c.environment.lookup "PATH".toList).getD [])
      let candidates := if name.contains '/' then [name]
        else directories.map (Program.inDirectory · name)
      let found := candidates.filter fun path => c.files.runs c.here (pathOf path)
      let found := if given.has 'a' then found else found.take 1
      if found = [] then fails 1
      unless given.has 's' do
        for path in found do print (path ++ ['\n'])

end SvelteTransform.Sandbox.Tools
