import SvelteTransform.Sandbox.Tools.Paths

/-! Programs that change the tree of files. -/
namespace SvelteTransform.Sandbox.Tools

def change (c : Call) (words : String) (path : Octets)
    (alter : Files → Except SystemError Files) : Running Bool := do
  match alter (← get).files with
  | .ok files =>
    modify ({ · with files })
    return true
  | .error error =>
    complain c (Octets.say words ++ quoted path ++ Octets.say s!": {error.reason}")
    return false

def report (given : Given) (text : Octets) : Running Unit := do
  if given.has 'v' then print (text ++ ['\n'])

def timeToNote (c : Call) (given : Given) : Running (Except Octets Int) := do
  let files := (← get).files
  let now : Int := match given.value? 'r' with
    | some path =>
      match files.find c.here (pathOf path) with
      | .ok (.node inode _) => files.time inode
      | _ => files.now
    | none => files.now
  match given.value? 'r', given.value? 'd', given.value? 't' with
  | some path, none, _ =>
    match ← there c path true with
    | .ok _ => return .ok now
    | .error error =>
      return .error (Octets.say "failed to get attributes of " ++ quoted path ++
        Octets.say s!": {error.reason}")
  | _, some text, _ =>
    match Calendar.read? now text with
    | some time => return .ok time
    | none => return .error (Octets.say "invalid date format " ++ quoted text)
  | _, _, some digits =>
    match Calendar.ofDigits? now digits with
    | some time => return .ok time
    | none => return .error (Octets.say "invalid date format " ++ quoted digits)
  | _, _, _ => return .ok now

def touch (c : Call) : Running Unit :=
  let options : Options := {
    flags := "acfmh", valued := "dtrT"
    long := [("no-create", 'c'), ("date", 'd'), ("reference", 'r'), ("time", 'T'),
      ("no-dereference", 'h')] }
  withOptions c options fun given => do
    match ← timeToNote c given with
    | .error text => complain c text
    | .ok time =>
      if given.operands = [] then tryHelp c (Octets.say "missing file operand")
      let onlyAccess := given.has 'a' && !given.has 'm'
      let note (inode : Inode) : Running Unit :=
        unless onlyAccess do modify fun r => { r with files := r.files.setTime inode time.toNat }
      for path in given.operands do
        match ← there c path (!given.has 'h') with
        | .ok (inode, _) => note inode
        | .error _ =>
          unless given.has 'c' || given.has 'h' do
            match (← get).files.touch c.here (pathOf path) with
            | .ok files =>
              modify ({ · with files })
              if let .ok (inode, _) := ← there c path true then note inode
            | .error .isDirectory =>
              complain c (Octets.say "setting times of " ++ quoted path ++
                Octets.say s!": {SystemError.notFound.reason}")
            | .error error =>
              complain c (Octets.say "cannot touch " ++ quoted path ++ Octets.say s!": {error.reason}")

def withInside (files : Files) : (fuel : Nat) → Octets → Inode → List (Octets × Inode)
  | 0, path, inode => [(path, inode)]
  | fuel + 1, path, inode =>
    (path, inode) :: (if files.node? inode = some .directory then
      (files.children inode).flatMap fun (name, inside) =>
        withInside files fuel (below path (Octets.ofText name)) inside
      else [])

def insideFirst (files : Files) : (fuel : Nat) → Octets → Inode → List (Octets × Inode)
  | 0, path, inode => [(path, inode)]
  | fuel + 1, path, inode =>
    (if files.node? inode = some .directory then
      (files.children inode).flatMap fun (name, inside) =>
        insideFirst files fuel (below path (Octets.ofText name)) inside
      else []) ++ [(path, inode)]

def changeMode (given : Given) (asked : Permissions.Asked) (path : Octets)
    (inode : Inode) : Running Unit := do
  let files := (← get).files
  let old := files.mode inode
  let new := asked.apply files.mask (files.node? inode = some .directory) old
  modify fun r => { r with files := r.files.setMode inode new }
  let told (mode : Nat) : Octets :=
    Permissions.digits mode ++ Octets.say " (" ++ Permissions.letters mode ++ [')']
  if new != old then
    if given.has 'v' || given.has 'c' then
      print (Octets.say "mode of " ++ quoted path ++ Octets.say " changed from " ++ told old ++
        Octets.say " to " ++ told new ++ ['\n'])
  else
    report given (Octets.say "mode of " ++ quoted path ++ Octets.say " retained as " ++ told old)

def chmod (c : Call) : Running Unit := do
  -- A mode may begin with the sign of options.
  let isMode (text : Octets) : Bool := text.head? = some '-' && (Permissions.ofText? text).isSome
  let (modes, others) := c.operands.partition isMode
  let arguments := match modes with
    | mode :: _ => "--".toList :: mode :: others
    | [] => others
  let options : Options := {
    flags := "Rvcf", valued := "F"
    long := [("recursive", 'R'), ("verbose", 'v'), ("changes", 'c'), ("silent", 'f'), ("quiet", 'f'),
      ("reference", 'F')]
    mixed := modes = [] }
  let flags := others.filter fun text => modes != [] && text.head? = some '-' && text.length > 1
  let arguments := if modes = [] then arguments
    else flags ++ "--".toList :: modes.headD [] :: others.filter (!flags.contains ·)
  withOptions { c with arguments := c.name :: arguments } options fun given => do
    let files := (← get).files
    let (asked, paths) : Except Octets Permissions.Asked × List Octets :=
      match given.value? 'F', given.operands with
      | some path, paths =>
        match files.find c.here (pathOf path) with
        | .ok (.node inode _) => (.ok (.exactly (files.mode inode) true), paths)
        | _ => (.error (Octets.say "failed to get attributes of " ++ quoted path ++
            Octets.say s!": {SystemError.notFound.reason}"), paths)
      | none, [] => (.error [], [])
      | none, mode :: paths =>
        match Permissions.ofText? mode with
        | some asked => (.ok asked, paths)
        | none => (.error (Octets.say "invalid mode: " ++ quoted mode), paths)
    match given.operands, paths, asked with
    | [], _, _ => missingOperand c
    | [mode], [], _ => tryHelp c (Octets.say "missing operand after " ++ quoted mode)
    | _, _, .error text => tryHelp c text
    | _, _, .ok asked =>
      for path in paths do
        match ← there c path true with
        | .error error =>
          fails 1
          unless given.has 'f' do
            let isLink : Bool := (← there c path false) matches .ok _
            if isLink then
              complain c (Octets.say "cannot operate on dangling symlink " ++ quoted path)
            else
              complain c (Octets.say "cannot access " ++ quoted path ++ Octets.say s!": {error.reason}")
        | .ok (inode, _) =>
          let files := (← get).files
          let all := if given.has 'R' then withInside files 40 path inode else [(path, inode)]
          for (path, inode) in all do
            unless files.node? inode matches some (.link _) do changeMode given asked path inode

def giveMode (c : Call) (asked : Option Permissions.Asked) (path : Octets) : Running Unit := do
  if let some asked := asked then
    if let .ok (inode, node) := ← there c path true then
      let full := if node = .directory then 0o777 else 0o666
      modify fun r =>
        let mode := asked.apply r.files.mask (node = .directory) full
        { r with files := r.files.setMode inode mode }

def modeAsked (c : Call) (given : Given) (body : Option Permissions.Asked → Running Unit) :
    Running Unit := do
  match given.value? 'm' with
  | none => body none
  | some text =>
    match Permissions.ofText? text with
    | some asked => body (some asked)
    | none => complain c (Octets.say "invalid mode " ++ quoted text)

def makeOne (c : Call) (tells : Bool) (path : Octets) : Running Bool := do
  let made ← change c "cannot create directory " path (·.makeDirectory c.here (pathOf path))
  if made && tells then
    print (c.name ++ Octets.say ": created directory " ++ quoted path ++ ['\n'])
  return made

def fronts (path : Octets) : List Octets :=
  ((List.range path.length).filter fun n =>
    0 < n && path[n]? = some '/' && path[n - 1]? != some '/').map fun n => path.take n

def makeAll (c : Call) (tells : Bool) (path : Octets) : List Octets → Running Unit
  | [] => do
    unless (← get).files.isDirectory c.here (pathOf path) do
      let _ ← makeOne c tells path
  | front :: rest => do
    match (← get).files.find c.here (pathOf front) with
    | .ok (.node _ .directory) => makeAll c tells path rest
    | .ok (.node ..) =>
      complain c (Octets.say "cannot create directory " ++ quoted front ++
        Octets.say s!": {SystemError.notDirectory.reason}")
    | _ => if ← makeOne c tells front then makeAll c tells path rest

def mkdir (c : Call) : Running Unit :=
  let options : Options := {
    flags := "pvZ", valued := "m"
    long := [("parents", 'p'), ("verbose", 'v'), ("mode", 'm')] }
  withOptions c options fun given => do
    if given.operands = [] then missingOperand c
    let tells := given.has 'v'
    modeAsked c given fun asked => do
      for path in given.operands do
        let wasThere := (← get).files.isDirectory c.here (pathOf path)
        if given.has 'p' then makeAll c tells path (fronts path)
        else let _ ← makeOne c tells path
        unless wasThere do giveMode c asked path

def mkfifo (c : Call) : Running Unit :=
  withOptions c { flags := "Z", valued := "m", long := [("mode", 'm')] } fun given => do
    if given.operands = [] then missingOperand c
    modeAsked c given fun asked => do
      for path in given.operands do
        if ← change c "cannot create fifo " path (·.make c.here (pathOf path) (.pipe [])) then
          giveMode c asked path

def removeDirectory (c : Call) (words : String) (path : Octets) : Running Bool := do
  let isLink : Bool := path.getLast? = some '/' &&
    match (← get).files.find c.here (pathOf ((path.reverse.dropWhile (· = '/')).reverse)) false with
    | .ok (.node _ (.link _)) => true
    | _ => false
  if isLink then
    complain c (Octets.say words ++ quoted path ++ Octets.say ": Symbolic link not followed")
    return false
  else change c words path (·.removeDirectory c.here (pathOf path))

def rmdir (c : Call) : Running Unit :=
  let options : Options := {
    flags := "pvi"
    long := [("parents", 'p'), ("verbose", 'v'), ("ignore-fail-on-non-empty", 'i')] }
  withOptions c options fun given => do
    if given.operands = [] then missingOperand c
    let removeDirectory (words : String) (path : Octets) : Running Bool := do
      report given (c.name ++ Octets.say ": removing directory, " ++ quoted path)
      if given.has 'i' && ((← get).files.removeDirectory c.here (pathOf path)) matches .error .notEmpty then
        return false
      removeDirectory c words path
    for path in given.operands do
      let above := if given.has 'p' then
          ((pathOf path).ancestors.drop 1).filter fun p => p.spelling != [] && p.spelling != ['/']
        else []
      let mut goesOn ← removeDirectory "failed to remove " path
      for path in above do
        if goesOn then
          goesOn ← removeDirectory "failed to remove directory " (Octets.ofText path.spelling)

def isAbsence (error : SystemError) : Bool := error = .notFound || error = .notDirectory

def rm (c : Call) : Running Unit :=
  let options : Options := {
    flags := "rRfvdiI"
    long := [("recursive", 'r'), ("force", 'f'), ("verbose", 'v'), ("dir", 'd')] }
  withOptions c options fun given => do
    if given.operands = [] && !given.has 'f' then missingOperand c
    for path in given.operands do
      let recursive := given.has 'r' || given.has 'R'
      match ← there c path false with
      | .error error =>
        let error := match (← get).files.unlink c.here (pathOf path) with
          | .ok _ => error
          | .error error => error
        unless given.has 'f' && isAbsence error do
          complain c (Octets.say "cannot remove " ++ quoted path ++ Octets.say s!": {error.reason}")
      | .ok (inode, .directory) =>
        let name := lastName path
        if !recursive && !given.has 'd' then
          complain c (Octets.say "cannot remove " ++ quoted path ++ Octets.say ": Is a directory")
        else if name = ['.'] || name = ['.', '.'] then
          complain c (Octets.say "refusing to remove '.' or '..' directory: skipping " ++ quoted path)
        else
          if recursive then
            for (path, inside) in (insideFirst (← get).files 40 path inode).dropLast do
              let kind := if (← get).files.node? inside = some .directory then "directory " else ""
              report given (Octets.say s!"removed {kind}" ++ quoted path)
            modify fun r => { r with files := r.files.clear inode }
          match (← get).files.removeDirectory c.here (pathOf path) with
          | .ok files =>
            modify ({ · with files })
            report given (Octets.say "removed directory " ++ quoted path)
          | .error error =>
            unless given.has 'f' && isAbsence error do
              complain c (Octets.say "cannot remove " ++ quoted path ++
                Octets.say s!": {error.reason}")
      | .ok _ =>
        if ← change c "cannot remove " path (·.unlink c.here (pathOf path)) then
          report given (Octets.say "removed " ++ quoted path)

def leading (path : Octets) : Octets :=
  let trimmed := (path.reverse.dropWhile (· = '/')).reverse
  let front := (trimmed.reverse.dropWhile (· != '/')).tail.reverse
  if trimmed.contains '/' then if front = [] then ['/'] else front else ['.']

def eachTarget (c : Call) (operands : List Octets) (into : Option Octets) (follows whole : Bool)
    (body : Octets → Octets → Running Unit) : Running Unit := do
  match into, operands with
  | none, [] => tryHelp c (Octets.say "missing file operand")
  | none, [only] => tryHelp c (Octets.say "missing destination file operand after " ++ quoted only)
  | into, operands =>
    let target := into.getD (operands.getLast?.getD [])
    let sources := if into.isSome then operands else operands.dropLast
    let isDirectory := !whole && match ← there c target follows with
      | .ok (_, .directory) => true
      | _ => false
    if isDirectory then
      for source in sources do body source (below target (lastName source))
    else match sources with
      | [source] => body source target
      | _ =>
        let reason := match ← there c target true with
          | .ok _ => SystemError.notDirectory.reason
          | .error error => error.reason
        complain c (Octets.say "target " ++ quoted target ++ Octets.say s!": {reason}")

def isKept (c : Call) (given : Given) (origin : Inode) (target : Octets) : Running Bool := do
  match ← there c target true with
  | .ok (there, _) =>
    let files := (← get).files
    return given.has 'n' || (given.has 'u' && files.time origin ≤ files.time there)
  | .error _ => return false

def preserve (c : Call) (given : Given) (origin : Inode) (target : Octets) : Running Unit := do
  if given.has 'p' || given.has 'a' then
    if let .ok (inode, _) := ← there c target false then
      modify fun r =>
        let files := r.files.setMode inode (r.files.mode origin)
        { r with files := files.setTime inode (r.files.time origin) }

def cp (c : Call) : Running Unit :=
  let options : Options := {
    flags := "rRafpvLPdnuTHslxZi#", valued := "tS"
    long := [("recursive", 'r'), ("archive", 'a'), ("target-directory", 't'), ("force", 'f'),
      ("preserve", 'p'), ("verbose", 'v'), ("dereference", 'L'), ("no-dereference", 'P'),
      ("no-clobber", 'n'), ("update", 'u'), ("no-target-directory", 'T'), ("link", 'l'),
      ("symbolic-link", 's'), ("parents", '#')] }
  withOptions c options fun given => do
    let recursive := given.has 'r' || given.has 'R' || given.has 'a'
    let keepsLinks := given.has 'P' || given.has 'd' || (recursive && !given.has 'L')
    let told (source target : Octets) : Running Unit :=
      report given (quoted source ++ Octets.say " -> " ++ quoted target)
    eachTarget c given.operands (given.value? 't') true (given.has 'T') fun source target => do
      match ← there c source (!keepsLinks) with
      | .error error =>
        complain c (Octets.say "cannot stat " ++ quoted source ++ Octets.say s!": {error.reason}")
      | .ok (origin, .directory) =>
        if !recursive then
          complain c (Octets.say "-r not specified; omitting directory " ++ quoted source)
        else
          let files := (← get).files
          let depth := files.entries.length
          let preserves := given.has 'p' || given.has 'a'
          let toldInside : Running Unit :=
            for (path, _) in withInside files 40 source origin do
              told path (target ++ path.drop source.length)
          match ← look c target true with
          | .ok (.absent place) =>
            if files.isWithin place.1 origin then
              complain c (Octets.say "cannot copy a directory, " ++ quoted source ++
                Octets.say ", into itself, " ++ quoted target)
            let made := files.createAs place .directory (files.masked (files.mode origin))
            modify fun r => { r with files := files.copyInto preserves made depth origin files.unused }
            preserve c given origin target
            toldInside
          | .ok (.node there .directory) =>
            modify fun r => { r with files := files.copyInto preserves files depth origin there }
            toldInside
          | .ok (.node ..) =>
            complain c (Octets.say "cannot overwrite non-directory " ++ quoted target ++
              Octets.say " with directory " ++ quoted source)
          | .error error =>
            complain c (Octets.say "cannot create directory " ++ quoted target ++
              Octets.say s!": {error.reason}")
      | .ok (origin, node) =>
        let old ← there c target true
        let same : Bool := match old with
          | .ok (there, _) => there = origin
          | .error _ => false
        if same then
          complain c (quoted source ++ Octets.say " and " ++ quoted target ++
            Octets.say " are the same file")
        else if old matches .error .notDirectory then
          complain c (Octets.say "cannot stat " ++ quoted target ++
            Octets.say s!": {SystemError.notDirectory.reason}")
        else if !(← isKept c given origin target) then
          let mode := (← get).files.mode origin
          let words := if given.has 's' then "cannot create symbolic link "
            else if given.has 'l' then "cannot create hard link " else "cannot create regular file "
          let done ← change c words target fun files => do
            if given.has 's' then files.makeLink c.here (pathOf source) (pathOf target)
            else if given.has 'l' then files.makeHardLink c.here (pathOf source) (pathOf target)
            else match ← files.find c.here (pathOf target), node with
            | .absent place, .file _ | .absent place, .tool _ | .absent place, .link _ =>
              if target.getLast? = some '/' then throw .notDirectory
              else return files.createAs place node (match node with
                | .link _ => 0o777
                | _ => files.masked mode)
            | _, node => files.write c.here (pathOf target) (← Files.content node)
          if done then
            unless given.has 's' || given.has 'l' do preserve c given origin target
            told source target

def mv (c : Call) : Running Unit :=
  let options : Options := {
    flags := "fnivuTZ", valued := "tS"
    long := [("force", 'f'), ("target-directory", 't'), ("no-clobber", 'n'), ("verbose", 'v'),
      ("update", 'u'), ("no-target-directory", 'T')] }
  withOptions c options fun given =>
    eachTarget c given.operands (given.value? 't') true (given.has 'T') fun source target => do
      match ← there c source false with
      | .error error =>
        complain c (Octets.say "cannot stat " ++ quoted source ++ Octets.say s!": {error.reason}")
      | .ok (origin, node) =>
        let old := match ← there c target false with
          | .ok found => some found
          | .error _ => none
        let clash : Option Octets := do
          let (inode, old) ← old
          if inode = origin then
            some (quoted source ++ Octets.say " and " ++ quoted target ++
              Octets.say " are the same file")
          else if old = .directory && node != .directory then
            some (Octets.say "cannot overwrite directory " ++ quoted target ++
              Octets.say " with non-directory")
          else if node = .directory && old != .directory then
            some (Octets.say "cannot overwrite non-directory " ++ quoted target ++
              Octets.say " with directory " ++ quoted source)
          else none
        match clash with
        | some text => complain c text
        | none =>
          if given.has 'n' && old.isSome then
            tell (c.name ++ Octets.say ": not replacing " ++ quoted target ++ ['\n'])
          else if given.has 'u' && (← isKept c given origin target) then return
          else match (← get).files.rename c.here (pathOf source) (pathOf target) with
            | .ok files =>
              modify ({ · with files })
              report given (Octets.say "renamed " ++ quoted source ++ Octets.say " -> " ++ quoted target)
            | .error .invalid =>
              complain c (Octets.say "cannot move " ++ quoted source ++
                Octets.say " to a subdirectory of itself, " ++ quoted target)
            | .error error =>
              complain c (Octets.say "cannot move " ++ quoted source ++ Octets.say " to " ++
                quoted target ++ Octets.say s!": {error.reason}")

def ln (c : Call) : Running Unit :=
  let options : Options := {
    flags := "sfnvrTLPi", valued := "tS"
    long := [("symbolic", 's'), ("force", 'f'), ("no-dereference", 'n'), ("verbose", 'v'),
      ("relative", 'r'), ("target-directory", 't'), ("no-target-directory", 'T')] }
  withOptions c options fun given => do
    let operands := match given.operands with
      | [only] => [only, lastName only]
      | operands => operands
    eachTarget c operands (given.value? 't') (!given.has 'n') (given.has 'T') fun source target => do
      if given.has 'f' then
        let files := (← get).files
        let same : Bool := !given.has 's' &&
          match files.find c.here (pathOf source) false, files.find c.here (pathOf target) false with
          | .ok (.node a _), .ok (.node b _) => a = b
          | _, _ => false
        if same then
          complain c (quoted source ++ Octets.say " and " ++ quoted target ++
            Octets.say " are the same file")
          return
        if let .ok files := files.unlink c.here (pathOf target) then modify ({ · with files })
      if given.has 's' then
        let text ← if given.has 'r' then
            match ← namesOf c source .nothing, ← namesOf c (leading target) .nothing with
            | .ok names, .ok directory => pure (relative directory names)
            | _, _ => pure source
          else pure source
        let done ← change c "failed to create symbolic link " target fun files =>
          files.makeLink c.here (pathOf text) (pathOf target)
        if done then report given (quoted target ++ Octets.say " -> " ++ quoted text)
      else
        match ← there c source false with
        | .error error =>
          complain c (Octets.say "failed to access " ++ quoted source ++
            Octets.say s!": {error.reason}")
        | .ok (_, .directory) =>
          complain c (quotedIfWild source ++ Octets.say ": hard link not allowed for directory")
        | .ok _ =>
          match (← get).files.makeHardLink c.here (pathOf source) (pathOf target) with
          | .ok files =>
            modify ({ · with files })
            report given (quoted target ++ Octets.say " => " ++ quoted source)
          | .error error =>
            let of := if error = .alreadyExists then [] else Octets.say " => " ++ quoted source
            complain c (Octets.say "failed to create hard link " ++ quoted target ++ of ++
              Octets.say s!": {error.reason}")

def exactly (c : Call) (count : Nat) (body : List Octets → Running Unit) : Running Unit :=
  withOptions c { flags := "" } fun given => do
    let operands := given.operands
    if operands = [] then missingOperand c
    else if operands.length < count then
      tryHelp c (Octets.say "missing operand after " ++ quoted (operands.getLast?.getD []))
    else match operands.drop count with
      | extra :: _ => tryHelp c (Octets.say "extra operand " ++ quoted extra)
      | [] => body operands

def unlink (c : Call) : Running Unit :=
  exactly c 1 fun operands => do
    let _ ← change c "cannot unlink " (operands.headD []) fun files =>
      files.unlink c.here (pathOf (operands.headD []))

def link (c : Call) : Running Unit :=
  exactly c 2 fun operands => do
    let source := operands.headD []
    let target := operands.getLast?.getD []
    match (← get).files.makeHardLink c.here (pathOf source) (pathOf target) with
    | .ok files => modify ({ · with files })
    | .error error =>
      complain c (Octets.say "cannot create link " ++ quoted target ++ Octets.say " to " ++
        quoted source ++ Octets.say s!": {error.reason}")

def uncommon (count n : Nat) : Octets :=
  let digits := "abcdefghijklmnopqrstuvwxyz0123456789ABCDEFGHIJKLMNOPQRSTUVWXYZ".toList
  (List.range count).map fun i => digits.getD ((n * 2654435761 / Nat.pow 62 i + i * 37) % 62) 'x'

def mktemp (c : Call) : Running Unit :=
  let options : Options := {
    flags := "duqtP", valued := "ps"
    long := [("directory", 'd'), ("dry-run", 'u'), ("quiet", 'q'), ("suffix", 's'), ("tmpdir", 'P')] }
  withOptions c options fun given => do
    let standard := match c.environment.lookup "TMPDIR".toList with
      | some text => if text = [] then "/tmp".toList else text
      | none => "/tmp".toList
    let chosen := match given.value? 'p', given.value? 'P' with
      | some text, _ | none, some text => if text = [] then standard else text
      | none, none => standard
    match given.operands with
    | _ :: _ :: _ => tryHelp c (Octets.say "too many templates")
    | operands =>
      let given_ := operands.head?
      let template := given_.getD "tmp.XXXXXXXXXX".toList
      let inDirectory := given_.isNone || given.has 't' || given.has 'p' || given.has 'P'
      let back := template.reverse
      -- Without an option for it, what follows the last mark is the ending.
      let plainEnding := (back.takeWhile (· != 'X')).reverse
      let ending := (given.value? 's').getD plainEnding
      let front := if given.has 's' then template else template.take (template.length - plainEnding.length)
      let marks := (front.reverse.takeWhile (· = 'X')).length
      if given.has 's' && plainEnding != [] then
        complain c (Octets.say "with --suffix, template " ++ quoted template ++ Octets.say " must end in X")
      else if marks < 3 then
        complain c (Octets.say "too few X's in template " ++ quoted template)
      else if given.has 't' && template.contains '/' then
        complain c (Octets.say "invalid template, " ++ quoted template ++
          Octets.say ", contains directory separator")
      else if (given.has 'p' || given.has 'P') && template.head? = some '/' then
        complain c (Octets.say "invalid template, " ++ quoted template ++
          Octets.say "; with --tmpdir, it may not be absolute")
      else
        let files := (← get).files
        let name := front.take (front.length - marks) ++
          uncommon marks (files.unused + 7919 * files.entries.length) ++ ending
        let path := if inDirectory then below chosen name else name
        if given.has 'u' then print (path ++ ['\n'])
        else
          let node : Node := if given.has 'd' then .directory else .file []
          let mode := if given.has 'd' then 0o700 else 0o600
          match files.make c.here (pathOf path) node with
          | .ok files =>
            modify fun r => { r with files := (files.setMode (files.unused - 1) mode) }
            print (path ++ ['\n'])
          | .error error =>
            let shown := if inDirectory then below chosen template else template
            fails 1
            unless given.has 'q' do
              let kind := if given.has 'd' then "directory" else "file"
              complain c (Octets.say s!"failed to create {kind} via template " ++ quoted shown ++
                Octets.say s!": {error.reason}")

def install (c : Call) : Running Unit :=
  let options : Options := {
    flags := "bcCdDpsTvZ", valued := "gmotS"
    long := [("directory", 'd'), ("mode", 'm'), ("target-directory", 't'), ("verbose", 'v'),
      ("no-target-directory", 'T'), ("preserve-timestamps", 'p'), ("owner", 'o'), ("group", 'g'),
      ("strip", 's'), ("compare", 'C')] }
  withOptions c options fun given => modeAsked c given fun asked => do
    let asked := asked.getD (.exactly 0o755 true)
    let makes (path : Octets) : Running Unit := do
      for front in fronts path ++ [path] do
        unless (← get).files.isDirectory c.here (pathOf front) do
          if ← change c "cannot create directory " front (·.makeDirectory c.here (pathOf front)) then
            report given (c.name ++ Octets.say ": creating directory " ++ quoted front)
    let setMode (path : Octets) : Running Unit := do
      if let .ok (inode, _) := ← there c path true then
        modify fun r => { r with files := r.files.setMode inode (asked.apply 0 false 0) }
    if given.has 'd' then
      if given.operands = [] then tryHelp c (Octets.say "missing file operand")
      for path in given.operands do
        makes path
        setMode path
    else
      if given.has 'D' then
        match given.value? 't', given.operands.getLast? with
        | some directory, _ => makes directory
        | none, some target => if target.contains '/' then makes (leading target)
        | none, none => pure ()
      eachTarget c given.operands (given.value? 't') true (given.has 'T') fun source target => do
        match ← there c source true with
        | .error error =>
          complain c (Octets.say "cannot stat " ++ quoted source ++ Octets.say s!": {error.reason}")
        | .ok (_, .directory) =>
          complain c (Octets.say "omitting directory " ++ quoted source)
        | .ok (origin, node) =>
          let same : Bool := match ← there c target true with
            | .ok (there, _) => there = origin
            | .error _ => false
          if same then
            complain c (quoted source ++ Octets.say " and " ++ quoted target ++
              Octets.say " are the same file")
          else
            if let .ok files := (← get).files.unlink c.here (pathOf target) then
              modify ({ · with files })
            let done ← change c "cannot create regular file " target fun files => do
              if target.getLast? = some '/' then throw .notDirectory
              files.write c.here (pathOf target) (← Files.content node)
            if done then
              setMode target
              if given.has 'p' then
                if let .ok (inode, _) := ← there c target true then
                  modify fun r => { r with files := r.files.setTime inode (r.files.time origin) }
              report given (quoted source ++ Octets.say " -> " ++ quoted target)

def truncate (c : Call) : Running Unit :=
  withOptions c { flags := "co", valued := "sr", long := [("size", 's'), ("no-create", 'c')] }
    fun given => do
      match given.value? 's', given.operands with
      | _, [] => tryHelp c (Octets.say "missing file operand")
      | none, _ => tryHelp c (Octets.say "you must specify either '--size' or '--reference'")
      | some size, paths =>
        let sign := size.head?.filter fun c => c = '+' || c = '-'
        match count? (if sign.isSome then size.tail else size) with
        | none => complain c (Octets.say "Invalid number: " ++ quoted size)
        | some n =>
          for path in paths do
            let _ ← change c "cannot open " path fun files =>
              files.change c.here (pathOf path) fun old =>
                let wanted := match sign with
                  | some '+' => old.length + n
                  | some _ => old.length - n
                  | none => n
                old.take wanted ++ List.replicate (wanted - old.length) 0

end SvelteTransform.Sandbox.Tools
