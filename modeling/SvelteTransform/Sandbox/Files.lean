import SvelteTransform.Path
import SvelteTransform.SystemError
import SvelteTransform.Text.Utf8

/-! Files in memory: a tree of directories, files and symbolic links, with the programs that are
built in. Paths are walked as a system walks them, name by name, through links; the user may read
and write everything, but only executable files can be run. -/
namespace SvelteTransform.Sandbox
open Text (Bytes)

inductive Dialect where
  | dash
  | bash
  deriving DecidableEq, Repr

inductive Tool where
  | shell (dialect : Dialect)
  | find
  | env
  | awk
  | xargs
  | timeout
  | nohup
  | setsid
  | stdbuf
  | nice
  | plain (name : String)
  | node
  | worker
  deriving DecidableEq, Repr

inductive Device where
  | null
  | zero
  | random
  | full
  | descriptor (n : Nat)
  deriving DecidableEq, Repr

def Device.isEndless : Device → Bool
  | .zero | .random | .full => true
  | .null | .descriptor _ => false

abbrev Inode := Nat

inductive Node where
  | directory
  | file (content : Bytes)
  | link (target : Path)
  | device (device : Device)
  | pipe (held : Bytes)
  | tool (tool : Tool)
  deriving DecidableEq, Repr

abbrev Place := Inode × Path.Segment

def Node.fullMode : Node → Nat
  | .file _ | .device _ | .pipe _ => 0o666
  | .directory | .link _ | .tool _ => 0o777

def Node.usualMode : Node → Nat
  | .file _ | .pipe _ => 0o644
  | .directory | .tool _ => 0o755
  | .link _ => 0o777
  | .device _ => 0o666

structure Files where
  nodes : List (Inode × Node) := []
  entries : List (Place × Inode) := []
  above : List (Inode × Inode) := []
  unused : Inode := 1
  modes : List (Inode × Nat) := []
  times : List (Inode × Nat) := []
  now : Nat := 0
  mask : Nat := 0o022

inductive Found where
  | node (inode : Inode) (node : Node)
  | absent (place : Place)
  deriving DecidableEq, Repr

inductive LastName where
  | root
  | here
  | above
  | named (place : Place) (slashed : Bool)
  deriving DecidableEq, Repr

namespace Files

def root : Inode := 0

def node? (files : Files) (inode : Inode) : Option Node :=
  if inode = root then some .directory else files.nodes.lookup inode

def child? (files : Files) (place : Place) : Option Inode := files.entries.lookup place

def parent (files : Files) (directory : Inode) : Inode := (files.above.lookup directory).getD root

def parentOf (files : Files) (inode : Inode) : Inode :=
  ((files.entries.find? (·.2 = inode)).map (·.1.1)).getD root

def isNamed (files : Files) (inode : Inode) : Bool :=
  inode = root || files.entries.any (·.2 = inode)

def setTime (files : Files) (inode : Inode) (time : Nat) : Files :=
  { files with times := (inode, time) :: files.times.filter (·.1 != inode) }

def time (files : Files) (inode : Inode) : Nat := (files.times.lookup inode).getD 0

def mode (files : Files) (inode : Inode) : Nat :=
  match files.modes.lookup inode, files.node? inode with
  | some mode, _ => mode
  | none, some node => node.usualMode
  | none, none => 0

def setMode (files : Files) (inode : Inode) (mode : Nat) : Files :=
  { files with modes := (inode, mode) :: files.modes.filter (·.1 != inode) }

def isExecutable (files : Files) (inode : Inode) : Bool := files.mode inode &&& 0o111 != 0

def replace (files : Files) (inode : Inode) (node : Node) : Files :=
  { files with nodes := (inode, node) :: files.nodes.filter (·.1 != inode) }.setTime inode files.now

def unname (files : Files) (place : Place) : Files :=
  { files with entries := files.entries.filter (·.1 != place) }.setTime place.1 files.now

def name (files : Files) (place : Place) (inode : Inode) : Files :=
  let above := if files.node? inode = some .directory then
      (inode, place.1) :: files.above.filter (·.1 != inode)
    else files.above
  { files.unname place with entries := (place, inode) :: (files.unname place).entries, above }

def createAs (files : Files) (place : Place) (node : Node) (mode : Nat) : Files :=
  let inode := files.unused
  let made : Files := { files with
    nodes := (inode, node) :: files.nodes
    modes := if mode = node.usualMode then files.modes else (inode, mode) :: files.modes
    times := (inode, files.now) :: files.times
    unused := inode + 1 }
  made.name place inode

def masked (files : Files) (mode : Nat) : Nat := mode - (mode &&& files.mask)

def create (files : Files) (place : Place) (node : Node) : Files :=
  files.createAs place node (match node with
    | .link _ => 0o777
    | node => files.masked node.fullMode)

def children (files : Files) (directory : Inode) : List (Path.Segment × Inode) :=
  let inside := files.entries.filterMap fun ((above, name), inode) =>
    if above = directory then some (name, inode) else none
  inside.mergeSort fun a b => !(b.1 < a.1 : Bool)

def names (files : Files) (directory : Inode) : List Path.Segment :=
  (files.children directory).map (·.1)

def isEmpty (files : Files) (directory : Inode) : Bool := files.entries.all (·.1.1 != directory)

def below (files : Files) : (fuel : Nat) → Inode → List Inode
  | 0, directory => [directory]
  | fuel + 1, directory =>
    directory :: (files.children directory).flatMap fun (_, inode) =>
      if files.node? inode = some .directory then files.below fuel inode else []

def tree (files : Files) (directory : Inode) : List Inode :=
  files.below files.entries.length directory

def clear (files : Files) (directory : Inode) : Files :=
  let cleared := files.tree directory
  { files with entries := files.entries.filter (!cleared.contains ·.1.1) }

def drop (files : Files) (place : Place) : Files :=
  match files.child? place with
  | none => files
  | some inode =>
    if files.node? inode = some .directory then (files.clear inode).unname place
    else files.unname place

def isWithin (files : Files) (directory outer : Inode) : Bool := (files.tree outer).contains directory

def namesTo (files : Files) : (fuel : Nat) → Inode → Option (List Path.Segment)
  | 0, _ => none
  | fuel + 1, directory =>
    if directory = root then some []
    else do
      let ((above, name), _) ← files.entries.find? (·.2 = directory)
      return (← files.namesTo fuel above) ++ [name]

def spelling (names : List Path.Segment) : List Char :=
  if names = [] then ['/'] else names.flatMap ('/' :: ·)

def pathTo? (files : Files) (directory : Inode) : Option Path :=
  (files.namesTo (files.entries.length + 1) directory).map fun names => ⟨spelling names⟩

def placeOf? (files : Files) : Found → Option Path
  | .node inode _ => files.pathTo? inode
  | .absent (directory, name) =>
    (files.namesTo (files.entries.length + 1) directory).map fun names =>
      ⟨spelling (names ++ [name])⟩

def nameLimit : Nat := 255
def pathLimit : Nat := 4095

def walkFrom (files : Files) (followLast : Bool)
    (follow : Inode → List Path.Segment → Except SystemError Found) :
    Inode → List Path.Segment → Except SystemError Found
  | directory, [] => .ok (.node directory .directory)
  | directory, segment :: rest =>
    if Path.isVacuous segment then walkFrom files followLast follow directory rest
    else if segment = ['.', '.'] then
      walkFrom files followLast follow (files.parent directory) rest
    else if nameLimit < Text.byteCount segment then .error .nameTooLong
    else match files.child? (directory, segment) with
      | none =>
        if rest.all (· = []) && files.isNamed directory then .ok (.absent (directory, segment))
        else .error .notFound
      | some inode => match files.node? inode with
        | none => .error .notFound
        | some .directory => walkFrom files followLast follow inode rest
        | some (.link target) =>
          if rest = [] && !followLast then .ok (.node inode (.link target))
          else follow (if target.isAbsolute then root else directory)
            (Path.cut target.spelling ++ rest)
        | some node => if rest = [] then .ok (.node inode node) else .error .notDirectory

def walk (files : Files) (followLast : Bool) :
    (links : Nat) → Inode → List Path.Segment → Except SystemError Found
  | 0 => walkFrom files followLast fun _ _ => .error .linkLoop
  | links + 1 => walkFrom files followLast (walk files followLast links)

def linkLimit : Nat := 40

def checked (path : Path) : Except SystemError Unit :=
  if path.spelling.contains '\x00' then .error .nulInPath
  else if path.spelling = [] then .error .notFound
  else if pathLimit < Text.byteCount path.spelling then .error .nameTooLong
  else .ok ()

def find (files : Files) (here : Inode) (path : Path) (followLast : Bool := true) :
    Except SystemError Found := do
  checked path
  files.walk followLast linkLimit (if path.isAbsolute then root else here) (Path.cut path.spelling)

def directory : Found → Except SystemError Inode
  | .node inode .directory => .ok inode
  | .node .. => .error .notDirectory
  | .absent _ => .error .notFound

def directoryAt (files : Files) (start : Inode) (segments : List Path.Segment) :
    Except SystemError Inode := do
  directory (← files.walk true linkLimit start segments)

def directoryOf (files : Files) (here : Inode) (path : Path) : Except SystemError Inode := do
  directory (← files.find here path)

def lastName (files : Files) (here : Inode) (path : Path) : Except SystemError LastName := do
  checked path
  let start := if path.isAbsolute then root else here
  let segments := Path.cut path.spelling
  match segments.reverse.dropWhile (· = []) with
  | [] => return .root
  | last :: before =>
    let directory ← files.directoryAt start before.reverse
    if last = ['.'] then return .here
    else if last = ['.', '.'] then return .above
    else if nameLimit < Text.byteCount last then throw .nameTooLong
    else return .named (directory, last) (segments.getLast? = some [])

def isFile (files : Files) (here : Inode) (path : Path) : Bool :=
  match files.find here path with
  | .ok (.node _ (.file _)) | .ok (.node _ (.tool _)) => true
  | _ => false

def runs (files : Files) (here : Inode) (path : Path) : Bool :=
  match files.find here path with
  | .ok (.node inode (.file _)) | .ok (.node inode (.tool _)) => files.isExecutable inode
  | _ => false

def isDirectory (files : Files) (here : Inode) (path : Path) : Bool :=
  match files.find here path with
  | .ok (.node _ .directory) => true
  | _ => false

def endless : Nat := 12 * 1024 * 1024

def content : Node → Except SystemError Bytes
  | .file content | .pipe content => .ok content
  | .device _ => .ok []
  | .tool _ => .ok [0x7F, 0x45, 0x4C, 0x46, 0xFF]
  | .directory => .error .isDirectory
  | .link _ => .error .linkLoop

def read (files : Files) (here : Inode) (path : Path) : Except SystemError Bytes := do
  match ← files.find here path with
  | .node _ node => content node
  | .absent _ => throw .notFound

def findToWrite (files : Files) (here : Inode) (path : Path) : Except SystemError Found := do
  if path.spelling.getLast? = some '/' then
    let _ ← files.lastName here path
    throw .isDirectory
  files.find here path

def change (files : Files) (here : Inode) (path : Path) (alter : Bytes → Bytes) :
    Except SystemError Files := do
  match ← files.findToWrite here path with
  | .node inode (.file content) => return files.replace inode (.file (alter content))
  | .node inode (.pipe held) => return files.replace inode (.pipe (held ++ alter []))
  | .node _ (.device .full) => if alter [] = [] then return files else throw .noSpace
  | .node _ (.device _) => return files
  | .node _ (.tool _) => throw .textBusy
  | .node _ _ => throw .isDirectory
  | .absent place => return files.create place (.file (alter []))

def write (files : Files) (here : Inode) (path : Path) (content : Bytes) :
    Except SystemError Files :=
  files.change here path fun _ => content

def append (files : Files) (here : Inode) (path : Path) (content : Bytes) :
    Except SystemError Files :=
  files.change here path (· ++ content)

def touch (files : Files) (here : Inode) (path : Path) : Except SystemError Files :=
  files.change here path id

def changeMode (files : Files) (here : Inode) (path : Path) (alter : Inode → Nat) :
    Except SystemError Files := do
  match ← files.find here path with
  | .node inode _ => return files.setMode inode (alter inode)
  | .absent _ => throw .notFound

def make (files : Files) (here : Inode) (path : Path) (node : Node) : Except SystemError Files := do
  match ← files.lastName here path with
  | .root | .here | .above => throw .alreadyExists
  | .named place slashed =>
    if (files.child? place).isSome then throw .alreadyExists
    else if !files.isNamed place.1 || (slashed && node != .directory) then throw .notFound
    else return files.create place node

def makeDirectory (files : Files) (here : Inode) (path : Path) : Except SystemError Files :=
  files.make here path .directory

def ensureDirectory (files : Files) (here : Inode) (path : Path) : Except SystemError Files :=
  match files.makeDirectory here path with
  | .ok files => .ok files
  | .error error => if files.isDirectory here path then .ok files else .error error

abbrev Changed := Except SystemError Unit × Files

def whole (files : Files) : Except SystemError Files → Changed
  | .ok changed => (.ok (), changed)
  | .error error => (.error error, files)

def makeMissing (files : Files) (here : Inode) : List Path → Changed
  | [] => (.error .noParent, files)
  | path :: parents =>
    if path.spelling = [] then (.ok (), files)
    else match files.ensureDirectory here path with
      | .error .notFound =>
        match files.makeMissing here parents with
        | (.ok (), files) => files.whole (files.ensureDirectory here path)
        | refused => refused
      | made => files.whole made

def makeDirectories (files : Files) (here : Inode) (path : Path) : Changed :=
  files.makeMissing here path.ancestors

def makeLink (files : Files) (here : Inode) (target path : Path) : Except SystemError Files :=
  if target.spelling = [] then .error .notFound else files.make here path (.link target)

def unlink (files : Files) (here : Inode) (path : Path) : Except SystemError Files := do
  match ← files.lastName here path with
  | .root | .here | .above => throw .isDirectory
  | .named place slashed =>
    match (files.child? place).bind files.node? with
    | none => throw .notFound
    | some .directory => throw .isDirectory
    | some _ => if slashed then throw .notDirectory else return files.unname place

def removeDirectory (files : Files) (here : Inode) (path : Path) : Except SystemError Files := do
  match ← files.lastName here path with
  | .root => throw .busy
  | .here => throw .invalid
  | .above => throw .notEmpty
  | .named place _ =>
    match files.child? place with
    | none => throw .notFound
    | some inode =>
      if files.node? inode != some .directory then throw .notDirectory
      else if files.isEmpty inode then return files.unname place
      else throw .notEmpty

def remove (files : Files) (here : Inode) (path : Path) : Changed :=
  match files.find here path false with
  | .ok (.node inode .directory) =>
    let cleared := files.clear inode
    cleared.whole (cleared.removeDirectory here path)
  | .ok (.node ..) => files.whole (files.unlink here path)
  | .ok (.absent _) => (.error .notFound, files)
  | .error error => (.error error, files)

def rename (files : Files) (here : Inode) (source target : Path) : Except SystemError Files := do
  match ← files.lastName here source, ← files.lastName here target with
  | .named old oldSlashed, .named new newSlashed =>
    match files.child? old with
    | none => throw .notFound
    | some inode =>
      let moves := files.node? inode = some .directory
      if !moves && (oldSlashed || newSlashed) then throw .notDirectory
      else if moves && files.isWithin new.1 inode then throw .invalid
      else if !files.isNamed new.1 then throw .notFound
      else
        let done := (files.unname old).name new inode
        match files.child? new with
        | none => return done
        | some there =>
          if there = inode then return files
          else if files.node? there = some .directory then
            if !moves then throw .isDirectory
            else if files.isEmpty there then return done
            else throw .notEmpty
          else if moves then throw .notDirectory
          else return done
  | _, _ => throw .busy

def makeHardLink (files : Files) (here : Inode) (source target : Path) :
    Except SystemError Files := do
  match ← files.find here source false with
  | .absent _ => throw .notFound
  | .node _ .directory => throw .notPermitted
  | .node inode _ =>
    match ← files.lastName here target with
    | .named place false =>
      if (files.child? place).isSome then throw .alreadyExists
      else if files.isNamed place.1 then return files.name place inode
      else throw .notFound
    | .named .. => throw .notFound
    | _ => throw .alreadyExists

def copyInto (before : Files) (preserves : Bool) (files : Files) :
    (fuel : Nat) → (source target : Inode) → Files
  | 0, _, _ => files
  | fuel + 1, source, target =>
    (before.children source).foldl (fun files (name, inode) =>
      let place := (target, name)
      let mode := before.mode inode
      let make (node : Node) : Files :=
        files.createAs place node (if preserves || node matches .link _ then mode else files.masked mode)
      let timed (files : Files) (copy : Inode) : Files :=
        if preserves then files.setTime copy (before.time inode) else files
      match before.node? inode, files.child? place with
      | some .directory, some there => before.copyInto preserves files fuel inode there
      | some .directory, none =>
        timed (before.copyInto preserves (make .directory) fuel inode files.unused) files.unused
      | some node, some there => timed (files.replace there node) there
      | some node, none => timed (make node) files.unused
      | none, _ => files) files

end Files
end SvelteTransform.Sandbox
