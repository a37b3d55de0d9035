import SvelteTransform.CommandLine.Run
import SvelteTransform.Sandbox.Shell.Run
import SvelteTransform.Transform.Process
import SvelteTransform.Worker.Node

/-! A machine in memory: files, environment and working directory, on which workers, discovery
and the command line run without touching the real system. -/
namespace SvelteTransform

structure Sandbox where
  files : Sandbox.Files
  past : Sandbox.World := { files }
  here : Sandbox.Inode
  environment : List (String × String)
  logged : List String := []

namespace Sandbox

def programs : List (String × Tool) :=
  [("sh", .shell .dash), ("dash", .shell .dash), ("bash", .shell .bash), ("find", .find),
   ("env", .env), ("xargs", .xargs), ("awk", .awk), ("mawk", .awk), ("timeout", .timeout),
   ("nohup", .nohup), ("setsid", .setsid), ("stdbuf", .stdbuf), ("nice", .nice)] ++
  Tools.programs.map fun (name, _) => (name, .plain name)

def devices : List (String × Device) :=
  [("null", .null), ("zero", .zero), ("full", .full), ("random", .random),
   ("urandom", .random), ("stdin", .descriptor 0),
   ("stdout", .descriptor 1), ("stderr", .descriptor 2)] ++
  (List.range 10 ++ [60, 61, 62, 63]).map fun n => (s!"fd/{n}", .descriptor n)

def Files.plant (files : Files) (path : Path) (node : Node) : Files :=
  let files := match path.parent with
    | some above => (files.makeDirectories Files.root above).2
    | none => files
  (files.make Files.root path node).toOption.getD files

def usualDirectories : List String :=
  (["boot", "etc", "home", "media", "mnt", "opt", "proc", "root", "run", "srv", "sys", "usr/games",
    "usr/include", "usr/lib", "usr/lib64", "usr/libexec", "usr/local/bin", "usr/local/etc",
    "usr/local/games", "usr/local/include", "usr/local/lib", "usr/local/sbin", "usr/local/share",
    "usr/local/src", "usr/sbin", "usr/share", "usr/src", "var/backups", "var/cache", "var/lib",
    "var/local", "var/log", "var/mail", "var/opt", "var/spool", "var/tmp"]).map ("/" ++ ·)

def usualLinks : List (String × String) :=
  [("/bin", "usr/bin"), ("/lib", "usr/lib"), ("/lib64", "usr/lib64"), ("/sbin", "usr/sbin"),
   ("/var/lock", "/run/lock"), ("/var/run", "/run")]

def accounts : List (String × String) :=
  [("/etc/passwd",
    "root:x:0:0:root:/root:/bin/bash\n" ++
    "nobody:x:65534:65534:nobody:/nonexistent:/usr/sbin/nologin\n"),
   ("/etc/group", "root:x:0:\nnogroup:x:65534:\n")]

def systemFiles : Files :=
  let directories := usualDirectories.map fun name => (name, Node.directory)
  let links := usualLinks.map fun (name, target) => (name, Node.link (.ofString target))
  let texts := accounts.map fun (name, text) => (name, Node.file (Text.utf8 text.toList))
  let base : List (String × Node) :=
    ("/usr/local/bin/node", .tool .node) :: directories ++ links ++ texts
  let tools := programs.map fun (name, tool) => (s!"/usr/bin/{name}", Node.tool tool)
  let devices := devices.map fun (name, device) => (s!"/dev/{name}", Node.device device)
  (tools ++ devices ++ base).foldl (fun files (path, node) => files.plant (.ofString path) node) {}

def systemPath : String := "/usr/local/sbin:/usr/local/bin:/usr/sbin:/usr/bin:/sbin:/bin"

def fresh (directory worker : Path) : Sandbox :=
  let files := (systemFiles.plant worker (.tool .worker)).plant directory .directory
  let files := (files.changeMode Files.root (.ofString "/tmp") fun _ => 0o1777).toOption.getD files
  { files
    here := (files.directoryAt Files.root (Path.cut directory.spelling)).toOption.getD Files.root
    environment := [
      ("XDG_CACHE_HOME", s!"{directory}/cache"),
      ("HOME", s!"{directory}/home"),
      ("PATH", systemPath)] }

def env (s : Sandbox) : Environment := fun name => s.environment.lookup name

def setVariable (s : Sandbox) (name : String) (value : Option String) : Sandbox :=
  let others := s.environment.filter (·.1 != name)
  { s with environment := (value.map (name, ·)).toList ++ others }

def isFile (s : Sandbox) (path : Path) : Bool := s.files.isFile s.here path

def read (s : Sandbox) (path : Path) : Except SystemError Text.Bytes := s.files.read s.here path

def readText (s : Sandbox) (path : Path) : Option String :=
  match s.read path with
  | .ok bytes => (Text.ofUtf8? bytes).map String.ofList
  | .error _ => none

def currentDirectory (s : Sandbox) : Except SystemError Path :=
  match s.files.pathTo? s.here with
  | some path => .ok path
  | none => .error .notFound

def projectRoot (s : Sandbox) : Option Path → Except ConfigError Path
  | some root => .ok root
  | none => s.currentDirectory.mapError fun error => .projectRoot error.message

def change (s : Sandbox) (alter : Files → Inode → Files.Changed) :
    Except SystemError Unit × Sandbox :=
  let (result, files) := alter s.files s.here
  (result, { s with files })

def write (s : Sandbox) (path : Path) (text : String) (executable : Bool) :
    Except SystemError Unit × Sandbox :=
  s.change fun files here =>
    let above : Files.Changed := match path.parent with
      | none => (.ok (), files)
      | some parent => files.makeDirectories here parent
    match above with
    | (.ok (), files) => files.whole do
      let files ← files.write here path (Text.utf8 text.toList)
      files.changeMode here path fun _ => if executable then 0o755 else 0o644
    | refused => refused

def makeDirectories (s : Sandbox) (path : Path) : Except SystemError Unit × Sandbox :=
  s.change fun files here => files.makeDirectories here path

def makeLink (s : Sandbox) (target path : Path) : Except SystemError Unit × Sandbox :=
  s.change fun files here => files.whole (files.makeLink here target path)

def remove (s : Sandbox) (path : Path) : Except SystemError Unit × Sandbox :=
  s.change fun files here => files.remove here path

def enter (s : Sandbox) (path : Path) : Except SystemError Unit × Sandbox :=
  match s.files.directoryOf s.here path with
  | .ok here => (.ok (), { s with here })
  | .error error => (.error error, s)

def accountHome : Path := .ofString "/root"

def cacheDirectory (s : Sandbox) : Option Path :=
  Worker.Script.cacheDirectory s.env (some accountHome)

def isExecutable (s : Sandbox) (path : Path) : Bool :=
  s.files.runs s.here path

def findNode (s : Sandbox) : Option Path :=
  ((Worker.Node.candidates s.env (some accountHome)).find? s.isExecutable).map
    (Worker.Node.located s.currentDirectory.toOption)

def directoryOf (s : Sandbox) (command : Worker.Command) : Except SystemError Inode :=
  match command.directory with
  | none => .ok s.here
  | some path => s.files.directoryOf s.here path

def isPassable (text : String) : Bool := !text.toList.contains '\x00'

def argumentLimit : Nat := 128 * 1024 - 1

def leftover (w : World) : World :=
  if w.isAnyAsleep then { w with stopped := none, cut := false }
  else { files := w.files, clock := w.clock, lastProcess := w.lastProcess }

def finish (s : Sandbox) (command : Worker.Command) (vars : List (String × String))
    (limit : Nat) : Except SystemError (Worker.Finished × Sandbox) := do
  let directory := command.directory.map Path.toString
  let passed := command.program :: command.arguments ++ directory.toList ++ vars.map (·.2)
  unless passed.all isPassable do throw .nulByte
  let here ← s.directoryOf command
  let encode (text : String) : Octets := Octets.ofText text.toList
  let inherited := s.environment.filter fun (name, _) => (vars.lookup name).isNone
  let (tool, arguments) ← Program.find s.files here ((s.env "PATH").map encode)
    ((command.program :: command.arguments).map encode)
  let given := command.arguments ++ vars.map fun (name, value) => s!"{name}={value}"
  if given.any (argumentLimit < ·.utf8ByteSize) then throw .argumentsTooLong
  let past := s.past
  let (input, world) := World.add { past with files := s.files }
    { target := .device .null, reads := true, writes := false }
  let (output, outputId, world) := world.addSink
  let (error, errorId, world) := world.addSink
  let number := world.lastProcess + 1
  let world := { world with
    lastProcess := number
    watch := some { sink := output, limit, process := number } }
  let process : Process := {
    here, arguments
    environment := (vars ++ inherited).map fun (name, value) => (encode name, encode value)
    descriptors := [(0, input), (1, outputId), (2, errorId)]
    number }
  let (ended, world) := Shell.execute Shell.stepLimit 1 process tool world
  let world := (world.drain output).drain error
  let written := (world.chunks output).map fun text => Worker.ReadEvent.chunk (Octets.toBytes text)
  let endless := if ended.isNone then [.chunk (List.replicate world.patience 10)] else []
  return ({
    stdout := written ++ endless
    stderr := Octets.toBytes (world.collected error)
    status := ended.getD (.killed 9) },
    { s with files := world.files, past := leftover ((world.close output).close error) })

def attempt (operation : Files → Inode → Except SystemError Files) :
    StateM Sandbox (Except SystemError Unit) :=
  modifyGet fun s => s.change fun files here => files.whole (operation files here)

def installFiles : Worker.Install.Files (StateM Sandbox) where
  read path := return (← get).read path
  openLock path := attempt fun files here => files.touch here path
  takeLock _ := return .ok ()
  dropLock _ := return ()
  clear path := attempt fun files here => files.write here path []
  append path bytes := attempt fun files here => files.append here path bytes

def machine : Worker.Machine (StateM Sandbox) where
  findNode := return (← get).findNode
  cacheDirectory := return (← get).cacheDirectory
  makeDirectories path := modifyGet (·.makeDirectories path)
  files := installFiles
  report _ := return ()
  finish command vars limit := modifyGet fun s =>
    match s.finish command vars limit with
    | .ok (finished, s) => (.ok finished, s)
    | .error error => (.error error, s)

def run (runner : Worker.Runner) (request : Worker.Request) (limit : Nat) :
    StateM Sandbox (Except Worker.Failure Worker.Response) :=
  runner.run machine request limit

def surroundings : CommandLine.Surroundings (StateM Sandbox) where
  machine
  currentDirectory := return (← get).currentDirectory
  isFile _ := return (← get).isFile
  readText path := return (← get).readText path
  logging := return (← get).env "RUST_LOG"
  tell line := modify fun s => { s with logged := s.logged ++ [line] }

structure Shown where
  exit : Nat
  stdout : String
  stderr : List String
  deriving DecidableEq, Repr

def commandLine (arguments : List String) : StateM Sandbox Shown := do
  modify ({ · with logged := [] })
  let outcome ← CommandLine.run surroundings arguments
  return ⟨outcome.exit, outcome.stdout, (← get).logged ++ outcome.complaint.toList⟩

end Sandbox
end SvelteTransform
