import SvelteTransform.CommandLine.Run
import SvelteTransform.Worker.Node

/-! The command line on the real system. Discovery and the worker script's cache use real files;
programs are not started from here, so a worker never runs. -/
namespace SvelteTransform.Main

abbrev LockHandle := IO.Ref (Option IO.FS.Handle)

def systemError : IO.Error → SystemError
  | .noFileOrDirectory .. => .notFound
  | .alreadyExists .. => .alreadyExists
  | .permissionDenied .. => .denied
  | error => .other (toString error)

def attempt {α : Type} (act : IO α) : IO (Except SystemError α) := do
  match ← act.toBaseIO with
  | .ok a => return .ok a
  | .error error => return .error (systemError error)

def readBytes (path : Path) : IO (Except SystemError Text.Bytes) :=
  attempt do return (← IO.FS.readBinFile path.toString).toList

def isFile (path : Path) : IO Bool := return (← readBytes path).toOption.isSome

def appendBytes (path : Path) (bytes : Text.Bytes) : IO Unit := do
  let file ← IO.FS.Handle.mk path.toString .append
  file.write ⟨bytes.toArray⟩

def installFiles (lock : LockHandle) : Worker.Install.Files IO where
  read := readBytes
  openLock path := attempt do lock.set (some (← IO.FS.Handle.mk path.toString .append))
  takeLock _ := attempt do
    if let some file ← lock.get then file.lock
  dropLock _ := do
    if let some file ← lock.get then file.unlock
    lock.set none
  clear path := attempt (IO.FS.writeBinFile path.toString ByteArray.empty)
  append path bytes := attempt (appendBytes path bytes)

def environment : IO Environment := do
  let home ← IO.getEnv "HOME"
  let cache ← IO.getEnv "XDG_CACHE_HOME"
  return fun
    | "HOME" => home
    | "XDG_CACHE_HOME" => cache
    | _ => none

def findNode : IO (Option Path) := do
  let searchPath ← IO.getEnv "PATH"
  let home ← IO.getEnv "HOME"
  let env : Environment := fun name =>
    if name = "PATH" then searchPath else if name = "HOME" then home else none
  let here ← IO.currentDir.toBaseIO
  let found ← (Worker.Node.candidates env none).findM? isFile
  return found.map (Worker.Node.located ((here.toOption).map fun d => .ofString d.toString))

def machine (lock : LockHandle) : Worker.Machine IO where
  findNode := findNode
  cacheDirectory := return Worker.Script.cacheDirectory (← environment) none
  makeDirectories path := attempt (IO.FS.createDirAll path.toString)
  files := installFiles lock
  report _ := return ()
  finish _ _ _ := return .error (.other "programs are not started from here")

def surroundings (lock : LockHandle) : CommandLine.Surroundings IO where
  machine := machine lock
  currentDirectory := attempt do return .ofString (← IO.currentDir).toString
  isFile candidates := do
    let found ← candidates.filterM isFile
    return found.contains
  readText path := do
    match ← readBytes path with
    | .ok bytes => return (Text.ofUtf8? bytes).map String.ofList
    | .error _ => return none
  logging := IO.getEnv "RUST_LOG"
  tell line := IO.eprintln line

end SvelteTransform.Main

def main (arguments : List String) : IO UInt32 := do
  let lock ← IO.mkRef none
  let outcome ← SvelteTransform.CommandLine.run (SvelteTransform.Main.surroundings lock) arguments
  IO.print outcome.stdout
  if let some text := outcome.complaint then IO.eprintln text
  return outcome.exit.toUInt32
